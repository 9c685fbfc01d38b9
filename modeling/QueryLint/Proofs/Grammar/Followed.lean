import QueryLint.Grammar.Conversion

/-! Which parts of a parsed text its conversion follows. A part is followed in a role; `parts` is the
table that says, for each role, which arguments are followed next and in which roles, and `selects`
lists the SELECT nodes that are come upon. Main statement: `mem_selects`, these are the SELECT nodes
at the end of a chain of the table's entries. -/
namespace QueryLint
set_option autoImplicit false

/-! ## Addresses -/

/-- A step from an argument down: to a field of a node, or to an item of a list. -/
inductive Step where
  | field (position : Nat)
  | item (position : Nat)
deriving DecidableEq, Repr

abbrev Address := List Step

/-- The number of nodes that are left behind on the way. -/
def Address.edges : Address → Nat
  | [] => 0
  | .field _ :: rest => Address.edges rest + 1
  | .item _ :: rest => Address.edges rest

def Arg.at? : Arg → Address → Option Arg
  | a, [] => some a
  | .node n, .field position :: rest =>
    match n.fields[position]? with
    | some f => f.value.at? rest
    | none => none
  | .list items, .item position :: rest =>
    match items[position]? with
    | some a => a.at? rest
    | none => none
  | _, _ => none

theorem Arg.at?_append (a : Arg) (s t : Address) : a.at? (s ++ t) = (a.at? s).bind (·.at? t) := by
  induction s generalizing a with
  | nil => simp [Arg.at?]
  | cons step s ih =>
    cases step with
    | field position =>
      cases a with
      | node n =>
        rw [List.cons_append, Arg.at?, Arg.at?]
        cases n.fields[position]? with
        | none => rfl
        | some f => exact ih f.value
      | _ => rfl
    | item position =>
      cases a with
      | list items =>
        rw [List.cons_append, Arg.at?, Arg.at?]
        cases items[position]? with
        | none => rfl
        | some b => exact ih b
      | _ => rfl

namespace Grammar

/-! ## Roles -/

/-- What a part is taken for, at which depth: a query, a source, an expression, a join, or a FROM
clause; or something of which the argument of a name, or each item, is taken for something. -/
inductive Role where
  | query (depth : Nat)
  | source (depth : Nat)
  | expr (depth : Nat)
  | join (depth : Nat)
  | fromClause (depth : Nat)
  | via (key : String) (role : Role)
  | each (role : Role)

namespace Role

def clause (depth : Nat) : Role := .via "this" (.expr depth)

def listing (depth : Nat) : Role := .via "expressions" (.each (.expr depth))

def withClause (depth : Nat) : Role := .via "expressions" (.each (.via "this" (.query depth)))

/-- A role that only passes a node on comes before the role in which it is passed on. -/
def rank : Role → Nat
  | source _ => 2
  | expr _ => 1
  | _ => 0

end Role

/-- A part that is followed: where it is, what it is and what it is taken for. -/
structure Part where
  address : Address
  arg : Arg
  role : Role

/-! ## The table -/

def givenKey (n : Node) (key other : String) : String :=
  if (n.get key).isAbsent then other else key

theorem get_givenKey (n : Node) (key other : String) :
    n.get (givenKey n key other) = n.getEither key other := by
  unfold givenKey Node.getEither
  split <;> rfl

def limitKey (n : Node) : String := if (n.get "limit").isSet then "limit" else "fetch"

theorem get_limitKey (n : Node) : n.get (limitKey n) = limitOf n := by
  unfold limitKey limitOf
  split <;> rfl

def selectKeys (n : Node) (depth : Nat) : List (String × Role) :=
  (if isStarAlone (n.get "expressions").items then []
    else [("expressions", .each (.expr (depth + 1)))])
    ++ [(givenKey n "from" "from_", .fromClause depth), ("joins", .each (.join depth)),
      ("where", .clause (depth + 1)), ("having", .clause (depth + 1)),
      ("qualify", .clause (depth + 1)), ("group", .listing (depth + 1)),
      ("order", .listing (depth + 1)), (limitKey n, .expr (depth + 1)),
      (givenKey n "with" "with_", .withClause depth)]

def combinationKeys (n : Node) (depth : Nat) : List (String × Role) :=
  [("this", .query depth), ("expression", .query depth), ("order", .listing (depth + 1)),
    ("limit", .expr (depth + 1)), (givenKey n "with" "with_", .withClause depth)]

def fromKeys (depth : Nat) : List (String × Role) :=
  [("this", .source depth), ("expressions", .each (.source depth))]

def joinKeys (depth : Nat) : List (String × Role) :=
  [("this", .source depth), ("on", .expr (depth + 1))]

def operatorKeys (depth : Nat) : List (String × Role) :=
  [("this", .expr depth), ("expression", .expr depth)]

def named (n : Node) (keys : List (String × Role)) : List Part :=
  keys.map fun (key, role) =>
    ⟨[.field (n.fields.findIdx fun f => f.key == key)], n.get key, role⟩

/-- The items of a list, those from a position on. -/
def itemsFrom (address : Address) (role : Role) : Nat → List Arg → List Part
  | _, [] => []
  | position, a :: rest =>
    ⟨address ++ [.item position], a, role⟩ :: itemsFrom address role (position + 1) rest

def itemParts (a : Arg) (role : Role) : List Part :=
  match a with
  | .list items => itemsFrom [] role 0 items
  | .node n =>
    match n.get "expressions" with
    | .list items =>
      itemsFrom [.field (n.fields.findIdx fun f => f.key == "expressions")] role 0 items
    | _ => []
  | _ => []

def childrenFrom (role : Role) : Nat → List Field → List Part
  | _, [] => []
  | position, f :: rest =>
    (match f.value with
      | .node m => [⟨[.field position], .node m, role⟩]
      | .list items => (itemsFrom [.field position] role 0 items).filter fun p => p.arg.isNode
      | _ => []) ++ childrenFrom role (position + 1) rest

def expressionParts (n : Node) (depth : Nat) : List Part :=
  if n.kind == "Subquery" then named n [("this", .query (depth + 1))]
  else if isQuery n.kind then [⟨[], .node n, .query (depth + 1)⟩]
  else if n.kind == "Star" || n.kind == "Column" || isConstant n.kind then []
  else if n.isOperator then named n (operatorKeys (depth + 1))
  else childrenFrom (.expr (depth + 1)) 0 n.fields

def sourceParts (n : Node) (depth : Nat) : List Part :=
  if n.kind == "Subquery" then named n [("this", .query (depth + 1))]
  else if isQuery n.kind then [⟨[], .node n, .query (depth + 1)⟩]
  else if n.kind == "Table" then
    if (n.get "this").isNode && !(n.get "this").kindIs "Identifier" then
      named n [("this", .expr (depth + 1))]
    else []
  else [⟨[], .node n, .expr (depth + 1)⟩]

/-- The parts of a node that is taken for a query. Of a statement that is none, only the queries
directly below it are followed. -/
def queryParts (n : Node) (depth : Nat) : List Part :=
  if n.kind == "Subquery" && (n.get "this").isNode then named n [("this", .query depth)]
  else if n.kind == "Select" then named n (selectKeys n depth)
  else if isCombination n.kind then named n (combinationKeys n depth)
  else (childrenFrom (.query depth) 0 n.fields).filter fun p => isNestedQuery p.arg

def parts (limit : Option Nat) : Role → Arg → List Part
  | .query depth, .node n => queryParts n depth
  | .source depth, .node n => sourceParts n depth
  | .expr depth, .node n => if isBeyond limit depth then [] else expressionParts n depth
  | .join depth, .node n => named n (joinKeys depth)
  | .fromClause depth, .node n => named n (fromKeys depth)
  | .via key role, .node n => named n [(key, role)]
  | .each role, a => itemParts a role
  | _, _ => []

/-! ## Parts are smaller, or taken for something simpler -/

theorem mem_named {n : Node} {keys : List (String × Role)} {p : Part} (h : p ∈ named n keys) :
    ∃ key role, (key, role) ∈ keys ∧
      p = ⟨[.field (n.fields.findIdx fun f => f.key == key)], n.get key, role⟩ := by
  obtain ⟨⟨key, role⟩, hkey, rfl⟩ := List.mem_map.mp h
  exact ⟨key, role, hkey, rfl⟩

theorem mem_itemsFrom {address : Address} {role : Role} {start : Nat} {items : List Arg} {p : Part}
    (h : p ∈ itemsFrom address role start items) :
    ∃ position, items[position]? = some p.arg ∧
      p.address = address ++ [.item (start + position)] ∧ p.role = role := by
  induction items generalizing start with
  | nil => exact absurd h List.not_mem_nil
  | cons a rest ih =>
    rcases List.mem_cons.mp h with rfl | h
    · exact ⟨0, rfl, rfl, rfl⟩
    · obtain ⟨position, hitem, haddress, hrole⟩ := ih h
      refine ⟨position + 1, hitem, ?_, hrole⟩
      rw [haddress, Nat.add_assoc, Nat.add_comm 1 position]

theorem mem_childrenFrom {role : Role} {start : Nat} {fields : List Field} {p : Part}
    (h : p ∈ childrenFrom role start fields) :
    ∃ position f, fields[position]? = some f ∧ p.role = role ∧
      ((p.arg = f.value ∧ p.address = [.field (start + position)]) ∨
        ∃ items index, f.value = .list items ∧ items[index]? = some p.arg ∧
          p.address = [.field (start + position), .item index]) := by
  induction fields generalizing start with
  | nil => exact absurd h List.not_mem_nil
  | cons f rest ih =>
    rw [childrenFrom, List.mem_append] at h
    rcases h with h | h
    · refine ⟨0, f, rfl, ?_⟩
      split at h
      · rename_i m hm
        obtain rfl := List.mem_singleton.mp h
        exact ⟨rfl, .inl ⟨hm.symm, rfl⟩⟩
      · rename_i items hitems
        obtain ⟨index, hitem, haddress, hrole⟩ := mem_itemsFrom (List.mem_filter.mp h).1
        rw [Nat.zero_add] at haddress
        exact ⟨hrole, .inr ⟨items, index, hitems, hitem, haddress⟩⟩
      · exact absurd h List.not_mem_nil
    · obtain ⟨position, g, hg, hrole, hplace⟩ := ih h
      have hsum : start + 1 + position = start + (position + 1) := by omega
      rw [hsum] at hplace
      exact ⟨position + 1, g, hg, hrole, hplace⟩

theorem sizeOf_getElem?_lt {α : Type} [SizeOf α] {l : List α} {i : Nat} {a : α}
    (h : l[i]? = some a) : sizeOf a < sizeOf l :=
  List.sizeOf_lt_of_mem (List.mem_of_getElem? h)

theorem sizeOf_named_lt {n : Node} {keys : List (String × Role)} {p : Part}
    (h : p ∈ named n keys) : sizeOf p.arg < sizeOf (Arg.node n) := by
  obtain ⟨key, role, -, rfl⟩ := mem_named h
  have hlt := n.sizeOf_get_lt key
  simp only [Arg.node.sizeOf_spec]
  omega

theorem sizeOf_childrenFrom_lt {n : Node} {role : Role} {p : Part}
    (h : p ∈ childrenFrom role 0 n.fields) : sizeOf p.arg < sizeOf (Arg.node n) := by
  obtain ⟨position, f, hf, -, hplace⟩ := mem_childrenFrom h
  have hfield := sizeOf_getElem?_lt hf
  have hvalue : sizeOf f.value < sizeOf f := by
    obtain ⟨key, value⟩ := f
    simp only [Field.mk.sizeOf_spec]
    omega
  have hnode : sizeOf n.fields < sizeOf (Arg.node n) := by
    obtain ⟨kind, fields, isOperator, function⟩ := n
    simp only [Arg.node.sizeOf_spec, Node.mk.sizeOf_spec]
    omega
  rcases hplace with ⟨harg, -⟩ | ⟨items, index, hlist, hitem, -⟩
  · rw [harg]
    omega
  · have hlt := sizeOf_getElem?_lt hitem
    rw [hlist, Arg.list.sizeOf_spec] at hvalue
    omega

theorem sizeOf_itemParts_lt {a : Arg} {role : Role} {p : Part} (h : p ∈ itemParts a role) :
    sizeOf p.arg < sizeOf a := by
  unfold itemParts at h
  split at h
  · rename_i items
    obtain ⟨index, hitem, -⟩ := mem_itemsFrom h
    have hlt := sizeOf_getElem?_lt hitem
    simp only [Arg.list.sizeOf_spec]
    omega
  · rename_i n
    split at h
    · rename_i items hitems
      obtain ⟨index, hitem, -⟩ := mem_itemsFrom h
      have hlt := sizeOf_getElem?_lt hitem
      have hget := n.sizeOf_get_lt "expressions"
      rw [hitems, Arg.list.sizeOf_spec] at hget
      simp only [Arg.node.sizeOf_spec]
      omega
    · exact absurd h List.not_mem_nil
  · exact absurd h List.not_mem_nil

theorem Role.rank_le (role : Role) : role.rank ≤ 2 := by
  cases role <;> simp [Role.rank]

/-- The ways in which a part comes from another: as an argument, as a child, as an item, or as the
same part in a role of a lower rank. -/
inductive Entry (role : Role) (a : Arg) (p : Part) : Prop where
  | argument {n : Node} {keys : List (String × Role)} (ha : a = .node n) (h : p ∈ named n keys)
  | child {n : Node} {r : Role} (ha : a = .node n) (h : p ∈ childrenFrom r 0 n.fields)
  | item {r : Role} (h : p ∈ itemParts a r)
  | passed (ha : p.arg = a) (haddress : p.address = []) (hrank : p.role.rank < role.rank)

theorem entry_of_mem_queryParts {n : Node} {depth : Nat} {p : Part} (h : p ∈ queryParts n depth) :
    Entry (.query depth) (.node n) p := by
  unfold queryParts at h
  split at h
  · exact .argument rfl h
  · split at h
    · exact .argument rfl h
    · split at h
      · exact .argument rfl h
      · exact .child rfl (List.mem_filter.mp h).1

theorem entry_of_mem_sourceParts {n : Node} {depth : Nat} {p : Part} (h : p ∈ sourceParts n depth) :
    Entry (.source depth) (.node n) p := by
  unfold sourceParts at h
  split at h
  · exact .argument rfl h
  · split at h
    · obtain rfl := List.mem_singleton.mp h
      exact .passed rfl rfl Nat.zero_lt_two
    · split at h
      · split at h
        · exact .argument rfl h
        · exact absurd h List.not_mem_nil
      · obtain rfl := List.mem_singleton.mp h
        exact .passed rfl rfl Nat.one_lt_two

theorem entry_of_mem_expressionParts {n : Node} {depth : Nat} {p : Part}
    (h : p ∈ expressionParts n depth) : Entry (.expr depth) (.node n) p := by
  unfold expressionParts at h
  split at h
  · exact .argument rfl h
  · split at h
    · obtain rfl := List.mem_singleton.mp h
      exact .passed rfl rfl Nat.zero_lt_one
    · split at h
      · exact absurd h List.not_mem_nil
      · split at h
        · exact .argument rfl h
        · exact .child rfl h

theorem entry_of_mem_parts {limit : Option Nat} {role : Role} {a : Arg} {p : Part}
    (h : p ∈ parts limit role a) : Entry role a p := by
  unfold parts at h
  split at h
  · exact entry_of_mem_queryParts h
  · exact entry_of_mem_sourceParts h
  · split at h
    · exact absurd h List.not_mem_nil
    · exact entry_of_mem_expressionParts h
  · exact .argument rfl h
  · exact .argument rfl h
  · exact .argument rfl h
  · exact .item h
  · exact absurd h List.not_mem_nil

theorem Entry.sizeOf_le {role : Role} {a : Arg} {p : Part} (h : Entry role a p) :
    sizeOf p.arg ≤ sizeOf a := by
  cases h with
  | argument ha h =>
    rw [ha]
    exact Nat.le_of_lt (sizeOf_named_lt h)
  | child ha h =>
    rw [ha]
    exact Nat.le_of_lt (sizeOf_childrenFrom_lt h)
  | item h => exact Nat.le_of_lt (sizeOf_itemParts_lt h)
  | passed ha => exact Nat.le_of_eq (by rw [ha])

/-- The measure on which following parts ends. -/
theorem Entry.measure_lt {role : Role} {a : Arg} {p : Part} (h : Entry role a p) :
    3 * sizeOf p.arg + p.role.rank < 3 * sizeOf a + role.rank := by
  have hrank := p.role.rank_le
  cases h with
  | argument ha h =>
    have hlt := sizeOf_named_lt h
    rw [ha]
    omega
  | child ha h =>
    have hlt := sizeOf_childrenFrom_lt h
    rw [ha]
    omega
  | item h =>
    have hlt := sizeOf_itemParts_lt h
    omega
  | passed ha _ h =>
    rw [ha]
    omega

/-! ## The SELECT nodes that are come upon -/

/-- A SELECT node with its address and the depth at which it is come upon. -/
structure Found where
  address : Address
  depth : Nat
  node : Node

def Found.below (address : Address) (f : Found) : Found := { f with address := address ++ f.address }

/-- A part itself, if it is a SELECT taken for a query. -/
def itself : Role → Arg → List Found
  | .query depth, .node n => if n.kind == "Select" then [⟨[], depth, n⟩] else []
  | _, _ => []

/-- The SELECT nodes among a part and all that is followed from it. -/
def selects (limit : Option Nat) (role : Role) (a : Arg) : List Found :=
  itself role a ++ (parts limit role a).attach.flatMap fun p =>
    (selects limit p.1.role p.1.arg).map (Found.below p.1.address)
termination_by 3 * sizeOf a + role.rank
decreasing_by exact (entry_of_mem_parts p.2).measure_lt

theorem selects_eq (limit : Option Nat) (role : Role) (a : Arg) :
    selects limit role a = itself role a ++ (parts limit role a).flatMap fun p =>
      (selects limit p.role p.arg).map (Found.below p.address) := by
  rw [selects]
  simp only [List.flatMap_subtype, List.unattach_attach]

/-- From a part in a role the table leads, along an address, to another part in a role. -/
inductive Followed (limit : Option Nat) : Role → Arg → Address → Role → Arg → Prop
  | here (role : Role) (a : Arg) : Followed limit role a [] role a
  | step {role role' : Role} {a b : Arg} {p : Part} {address : Address}
      (first : p ∈ parts limit role a) (rest : Followed limit p.role p.arg address role' b) :
      Followed limit role a (p.address ++ address) role' b

theorem mem_selects_of_followed {limit : Option Nat} {role role' : Role} {a b : Arg}
    {address : Address} (h : Followed limit role a address role' b) {depth : Nat} {n : Node}
    (hrole : role' = .query depth) (hb : b = .node n) (hn : n.kind = "Select") :
    ⟨address, depth, n⟩ ∈ selects limit role a := by
  induction h with
  | here role a =>
    subst hrole hb
    rw [selects_eq, itself, if_pos (by simpa using hn)]
    exact List.mem_cons_self
  | @step role role' a b p address first _ ih =>
    rw [selects_eq]
    refine List.mem_append_right _ (List.mem_flatMap.mpr ⟨p, first, ?_⟩)
    exact List.mem_map.mpr ⟨⟨address, depth, n⟩, ih hrole hb, rfl⟩

theorem followed_of_mem_selects {limit : Option Nat} {role : Role} {a : Arg} {f : Found}
    (h : f ∈ selects limit role a) :
    Followed limit role a f.address (.query f.depth) (.node f.node) ∧ f.node.kind = "Select" := by
  induction role, a using selects.induct limit generalizing f with
  | case1 role a ih =>
    rw [selects_eq] at h
    rcases List.mem_append.mp h with h | h
    · unfold itself at h
      split at h
      · split at h
        · rename_i hkind
          obtain rfl := List.mem_singleton.mp h
          exact ⟨.here _ _, by simpa using hkind⟩
        · exact absurd h List.not_mem_nil
      · exact absurd h List.not_mem_nil
    · obtain ⟨p, hp, hf⟩ := List.mem_flatMap.mp h
      obtain ⟨g, hg, rfl⟩ := List.mem_map.mp hf
      obtain ⟨hfollowed, hkind⟩ := ih ⟨p, hp⟩ hg
      exact ⟨.step hp hfollowed, hkind⟩

/-- The SELECT nodes that are listed are those at the end of a chain of the table's entries. -/
theorem mem_selects {limit : Option Nat} {role : Role} {a : Arg} {f : Found} :
    f ∈ selects limit role a ↔
      Followed limit role a f.address (.query f.depth) (.node f.node) ∧ f.node.kind = "Select" :=
  ⟨followed_of_mem_selects, fun h => mem_selects_of_followed h.1 rfl rfl h.2⟩

/-! ## Parts stand at their addresses -/

theorem at?_field {n : Node} {key : String} (h : n.get key ≠ .absent) :
    (Arg.node n).at? [.field (n.fields.findIdx fun f => f.key == key)] = some (n.get key) := by
  rw [Arg.at?, ← List.find?_eq_getElem?_findIdx]
  unfold Node.get Node.field? at h ⊢
  cases hf : n.fields.find? fun f => f.key == key with
  | none => exact absurd (by rw [hf]; rfl) h
  | some f => rfl

theorem at?_of_mem_childrenFrom {n : Node} {role : Role} {p : Part}
    (h : p ∈ childrenFrom role 0 n.fields) : (Arg.node n).at? p.address = some p.arg := by
  obtain ⟨position, f, hf, -, ⟨harg, haddress⟩ | ⟨items, index, hlist, hitem, haddress⟩⟩ :=
    mem_childrenFrom h
  · rw [haddress, Nat.zero_add, Arg.at?, hf, harg]
    rfl
  · rw [haddress, Nat.zero_add, Arg.at?, hf]
    simp only [hlist, Arg.at?, hitem]

theorem at?_of_mem_itemParts {a : Arg} {role : Role} {p : Part} (h : p ∈ itemParts a role) :
    a.at? p.address = some p.arg := by
  unfold itemParts at h
  split at h
  · obtain ⟨index, hitem, haddress, -⟩ := mem_itemsFrom h
    rw [haddress, List.nil_append, Nat.zero_add, Arg.at?, hitem]
    rfl
  · rename_i n
    split at h
    · rename_i items hitems
      obtain ⟨index, hitem, haddress, -⟩ := mem_itemsFrom h
      have hgiven : n.get "expressions" ≠ .absent := by
        rw [hitems]
        exact Arg.noConfusion
      have hfield := at?_field hgiven
      rw [haddress, Nat.zero_add, Arg.at?_append, hfield, hitems, Option.bind_some, Arg.at?, hitem]
      rfl
    · exact absurd h List.not_mem_nil
  · exact absurd h List.not_mem_nil

/-- A part is what stands at its address, unless nothing stands there. -/
theorem Entry.at? {role : Role} {a : Arg} {p : Part} (h : Entry role a p) (hp : p.arg ≠ .absent) :
    a.at? p.address = some p.arg := by
  cases h with
  | argument ha h =>
    obtain ⟨key, role, -, rfl⟩ := mem_named h
    rw [ha]
    exact at?_field hp
  | child ha h =>
    rw [ha]
    exact at?_of_mem_childrenFrom h
  | item h => exact at?_of_mem_itemParts h
  | passed ha haddress _ => rw [haddress, ha, Arg.at?]

theorem parts_absent (limit : Option Nat) (role : Role) : parts limit role .absent = [] := by
  cases role <;> rfl

/-- A chain of the table's entries leads to what stands at its address. -/
theorem Followed.at? {limit : Option Nat} {role role' : Role} {a b : Arg} {address : Address}
    (h : Followed limit role a address role' b) (hb : b ≠ .absent) : a.at? address = some b := by
  induction h with
  | here role a => simp only [Arg.at?]
  | @step role role' a b p address first rest ih =>
    have hp : p.arg ≠ .absent := by
      intro hnone
      rw [hnone] at rest
      cases rest with
      | here => exact hb rfl
      | step second _ => exact absurd (parts_absent limit _ ▸ second) List.not_mem_nil
    rw [Arg.at?_append, (entry_of_mem_parts first).at? hp, Option.bind_some]
    exact ih hb

end Grammar
end QueryLint
