import MailQuote.Html.Name

namespace MailQuote.Html

abbrev NodeId := Nat

/-- A node without its children. -/
inductive NodeData where
  | element (name : Name) (attributes : List Attr)
  | text (content : String)
  | comment (content : String)
  | doctype (name : String)
deriving DecidableEq, Repr

/-- Sibling nodes with their descendants. -/
inductive Forest where
  | nil
  | cons (id : NodeId) (data : NodeData) (children rest : Forest)
deriving DecidableEq, Repr

/-- A node with its descendants. -/
structure Tree where
  id : NodeId
  data : NodeData
  children : Forest
deriving DecidableEq, Repr

namespace NodeData

def name? : NodeData → Option Name
  | .element name _ => some name
  | _ => none

def isElement (data : NodeData) : Bool :=
  data.name?.isSome

def ownText : NodeData → List Char
  | .text content => content.toList
  | _ => []

/-- A text node with more text at its end; other nodes are kept. -/
def extend (content : String) : NodeData → NodeData
  | .text known => .text (known ++ content)
  | data => data

/-- An element with more attributes, unless it has ones of their names. -/
def addAttributes (attributes : List Attr) : NodeData → NodeData
  | .element name known => .element name (Attr.addAll known attributes)
  | data => data

end NodeData

namespace Forest

def ofTree (tree : Tree) : Forest :=
  .cons tree.id tree.data tree.children .nil

def append : Forest → Forest → Forest
  | .nil, second => second
  | .cons id data children rest, second => .cons id data children (rest.append second)

instance : Append Forest := ⟨append⟩

/-- A row of siblings in reverse order, followed by another row. -/
def onto : (reversed : Forest) → (following : Forest) → Forest
  | .nil, following => following
  | .cons id data children rest, following =>
      rest.onto (.cons id data children following)

def isEmpty : Forest → Bool
  | .nil => true
  | .cons .. => false

def trees : Forest → List Tree
  | .nil => []
  | .cons id data children rest => ⟨id, data, children⟩ :: rest.trees

def width : Forest → Nat
  | .nil => 0
  | .cons _ _ _ rest => rest.width + 1

def size : Forest → Nat
  | .nil => 0
  | .cons _ _ children rest => children.size + rest.size + 1

def ids : Forest → List NodeId
  | .nil => []
  | .cons id _ children rest => id :: (children.ids ++ rest.ids)

def text : Forest → List Char
  | .nil => []
  | .cons _ data children rest => data.ownText ++ children.text ++ rest.text

def find? (target : NodeId) : Forest → Option Tree
  | .nil => none
  | .cons id data children rest =>
      if id = target then some ⟨id, data, children⟩
      else
        match children.find? target with
        | some found => some found
        | none => rest.find? target

def holds (target : NodeId) (forest : Forest) : Bool :=
  (forest.find? target).isSome

def without (drop : NodeId → Bool) : Forest → Forest
  | .nil => .nil
  | .cons id data children rest =>
      if drop id then rest.without drop
      else .cons id data (children.without drop) (rest.without drop)

def erase (target : NodeId) (forest : Forest) : Forest :=
  forest.without (· == target)

/-- The forest with more nodes as last children of one node, which is to be an
element: no other node has children. -/
def appendTo (target : NodeId) (added : Forest) : Forest → Forest
  | .nil => .nil
  | .cons id data children rest =>
      .cons id data
        (if id = target && data.isElement then appendTo target added children ++ added
          else appendTo target added children)
        (appendTo target added rest)

def insertBefore (target : NodeId) (added : Forest) : Forest → Forest
  | .nil => .nil
  | .cons id data children rest =>
      let node := Forest.cons id data (insertBefore target added children)
        (insertBefore target added rest)
      if id = target then added ++ node else node

def modify (target : NodeId) (change : NodeData → NodeData) : Forest → Forest
  | .nil => .nil
  | .cons id data children rest =>
      .cons id (if id = target then change data else data)
        (children.modify target change) (rest.modify target change)

def last? : Forest → Option Tree
  | .nil => none
  | .cons id data children .nil => some ⟨id, data, children⟩
  | .cons _ _ _ rest => rest.last?

/-- The sibling directly before one node, wherever that node is. -/
def previous? (target : NodeId) : Forest → Option Tree
  | .nil => none
  | .cons id data children rest =>
      match children.previous? target with
      | some found => some found
      | none =>
          match rest with
          | .cons next _ _ _ =>
              if next = target then some ⟨id, data, children⟩ else rest.previous? target
          | .nil => none

/-- The forest with its nodes numbered in document order, and the first number
that is left. -/
def renumber : (next : NodeId) → Forest → Forest × NodeId
  | next, .nil => (.nil, next)
  | next, .cons _ data children rest =>
      let (children, afterChildren) := renumber (next + 1) children
      let (rest, afterRest) := renumber afterChildren rest
      (.cons next data children rest, afterRest)

end Forest

namespace Tree

def text (tree : Tree) : List Char :=
  tree.data.ownText ++ tree.children.text

def ids (tree : Tree) : List NodeId :=
  tree.id :: tree.children.ids

end Tree

namespace Forest

def join (rows : List Forest) : Forest :=
  rows.foldr append .nil

def WellNested : Forest → Prop
  | .nil => True
  | .cons _ data children rest =>
      (data.isElement = true ∨ children = .nil) ∧ children.WellNested ∧ rest.WellNested

instance decidableWellNested : (forest : Forest) → Decidable forest.WellNested
  | .nil => isTrue trivial
  | .cons _ _ children rest =>
      @instDecidableAnd _ _ _ (@instDecidableAnd _ _
        (decidableWellNested children) (decidableWellNested rest))

/-- A forest whose nodes are told apart by their identifiers, all of which are
below a given one. -/
structure Sound (forest : Forest) (next : NodeId) : Prop where
  distinct : forest.ids.Nodup
  below : ∀ id ∈ forest.ids, id < next
  wellNested : forest.WellNested

@[simp] theorem nil_append (forest : Forest) : (.nil : Forest) ++ forest = forest := rfl

@[simp] theorem cons_append (id : NodeId) (data : NodeData)
    (children rest forest : Forest) :
    Forest.cons id data children rest ++ forest =
      .cons id data children (rest ++ forest) := rfl

@[simp] theorem append_nil (forest : Forest) : forest ++ (.nil : Forest) = forest := by
  induction forest with
  | nil => rfl
  | cons id data children rest _ ih => rw [cons_append, ih]

theorem append_assoc (first second third : Forest) :
    first ++ second ++ third = first ++ (second ++ third) := by
  induction first with
  | nil => rfl
  | cons id data children rest _ ih => simp only [cons_append, ih]

@[simp] theorem join_nil : join [] = .nil := rfl

@[simp] theorem join_cons (row : Forest) (rows : List Forest) :
    join (row :: rows) = row ++ join rows := rfl

theorem join_append (first second : List Forest) :
    join (first ++ second) = join first ++ join second := by
  induction first with
  | nil => rfl
  | cons row rows ih => rw [List.cons_append, join_cons, ih, join_cons, append_assoc]

/-- A change of nodes that does not look at the siblings acts upon all rows as
upon each. -/
theorem join_map (change : Forest → Forest) (nil : change .nil = .nil)
    (append : ∀ first second, change (first ++ second) = change first ++ change second)
    (rows : List Forest) : join (rows.map change) = change (join rows) := by
  induction rows with
  | nil => exact nil.symm
  | cons row rows ih => rw [List.map_cons, join_cons, ih, join_cons, append]

theorem join_filter_nonempty (rows : List Forest) :
    join (rows.filter fun row => !row.isEmpty) = join rows := by
  induction rows with
  | nil => rfl
  | cons row rows ih =>
      cases row with
      | nil => exact ih
      | cons => exact congrArg (_ ++ ·) ih

@[simp] theorem ids_nil : (Forest.nil).ids = [] := rfl

@[simp] theorem ids_cons (id : NodeId) (data : NodeData) (children rest : Forest) :
    (Forest.cons id data children rest).ids = id :: (children.ids ++ rest.ids) := rfl

@[simp] theorem ids_append (first second : Forest) :
    (first ++ second).ids = first.ids ++ second.ids := by
  induction first with
  | nil => rfl
  | cons id data children rest _ ih => simp [ih]

@[simp] theorem ids_ofTree (tree : Tree) : (ofTree tree).ids = tree.ids := by
  simp [ofTree, Tree.ids]

@[simp] theorem wellNested_append (first second : Forest) :
    (first ++ second).WellNested ↔ first.WellNested ∧ second.WellNested := by
  induction first with
  | nil => simp [WellNested]
  | cons id data children rest _ ih => simp [WellNested, ih, and_assoc]

private theorem without_append (drop : NodeId → Bool) (first second : Forest) :
    (first ++ second).without drop = first.without drop ++ second.without drop := by
  induction first with
  | nil => rfl
  | cons id data children rest _ ih =>
      simp only [cons_append, without, ih]
      split <;> rfl

theorem erase_append (target : NodeId) (first second : Forest) :
    (first ++ second).erase target = first.erase target ++ second.erase target :=
  without_append _ first second

theorem erase_cons_self (target : NodeId) (data : NodeData) (children rest : Forest) :
    (Forest.cons target data children rest).erase target = rest.erase target := by
  simp [erase, without]

theorem erase_cons_of_ne {id target : NodeId} (different : id ≠ target) (data : NodeData)
    (children rest : Forest) :
    (Forest.cons id data children rest).erase target =
      .cons id data (children.erase target) (rest.erase target) := by
  simp [erase, without, different]

theorem ids_without_sublist (drop : NodeId → Bool) (forest : Forest) :
    (forest.without drop).ids.Sublist forest.ids := by
  induction forest with
  | nil => exact .slnil
  | cons id data children rest ihChildren ihRest =>
      simp only [without]
      split
      · exact (ihRest.trans (List.sublist_append_right _ _)).cons _
      · exact (ihChildren.append ihRest).cons_cons _

theorem without_eq_self {drop : NodeId → Bool} {forest : Forest}
    (kept : ∀ id ∈ forest.ids, drop id = false) : forest.without drop = forest := by
  induction forest with
  | nil => rfl
  | cons id data children rest ihChildren ihRest =>
      simp only [ids_cons, List.forall_mem_cons, List.forall_mem_append] at kept
      simp only [without, kept.1, ihChildren kept.2.1, ihRest kept.2.2,
        Bool.false_eq_true, if_false]

private theorem WellNested.without {forest : Forest} (nested : forest.WellNested)
    (drop : NodeId → Bool) : (forest.without drop).WellNested := by
  induction forest with
  | nil => exact trivial
  | cons id data children rest ihChildren ihRest =>
      obtain ⟨holder, inside, after⟩ := nested
      simp only [Forest.without]
      split
      · exact ihRest after
      · refine ⟨holder.imp_right fun none => ?_, ihChildren inside, ihRest after⟩
        rw [none, Forest.without]

theorem erase_eq_self {target : NodeId} {forest : Forest} (absent : target ∉ forest.ids) :
    forest.erase target = forest :=
  without_eq_self fun id member => by
    simpa using fun equality : id = target => absent (equality ▸ member)

theorem find?_append (target : NodeId) (first second : Forest) :
    (first ++ second).find? target = (first.find? target).or (second.find? target) := by
  induction first with
  | nil => rfl
  | cons id data children rest _ ih =>
      simp only [cons_append, find?, ih]
      split
      · rfl
      · cases children.find? target <;> rfl

theorem find?_eq_none {target : NodeId} {forest : Forest} :
    forest.find? target = none ↔ target ∉ forest.ids := by
  induction forest with
  | nil => simp [find?]
  | cons id data children rest ihChildren ihRest =>
      simp only [find?, ids_cons, List.mem_cons, List.mem_append, not_or]
      split
      · next equality => simp [equality]
      · next different =>
          cases inside : children.find? target with
          | none => simp [Ne.symm different, ihChildren.mp inside, ihRest]
          | some tree =>
              have member : ¬ target ∉ children.ids := fun absent => by
                rw [ihChildren.mpr absent] at inside
                cases inside
              simp [member]

theorem exists_find? {target : NodeId} {forest : Forest} (member : target ∈ forest.ids) :
    ∃ tree, forest.find? target = some tree := by
  cases found : forest.find? target with
  | none => exact absurd member (find?_eq_none.mp found)
  | some tree => exact ⟨tree, rfl⟩

theorem mem_of_find? {target : NodeId} {forest : Forest} {tree : Tree}
    (found : forest.find? target = some tree) : target ∈ forest.ids := by
  rw [← Decidable.not_not (p := target ∈ forest.ids), ← find?_eq_none, found]
  simp

private theorem ids_perm_of_find? {target : NodeId} {forest : Forest} {tree : Tree}
    (distinct : forest.ids.Nodup) (found : forest.find? target = some tree) :
    forest.ids.Perm ((forest.erase target).ids ++ tree.ids) := by
  induction forest with
  | nil => simp [find?] at found
  | cons id data children rest ihChildren ihRest =>
      simp only [ids_cons, List.nodup_cons, List.nodup_append, List.mem_append,
        not_or] at distinct
      obtain ⟨⟨notInside, notAfter⟩, inside, after, apart⟩ := distinct
      simp only [find?] at found
      split at found
      · next equality =>
          cases found
          subst equality
          rw [erase_cons_self, erase_eq_self notAfter]
          exact (List.perm_append_comm : (id :: children.ids ++ rest.ids).Perm _)
      · next different =>
          rw [erase_cons_of_ne different]
          simp only [ids_cons, List.cons_append]
          split at found
          · next tree' foundInside =>
              cases found
              have member := mem_of_find? foundInside
              have same : rest.erase target = rest :=
                erase_eq_self fun other => apart _ member _ other rfl
              rw [same]
              refine List.Perm.cons id ?_
              calc
                _ = children.ids ++ rest.ids := rfl
                List.Perm _ (((children.erase target).ids ++ tree.ids) ++ rest.ids) :=
                  (ihChildren inside foundInside).append_right _
                List.Perm _ (((children.erase target).ids ++ rest.ids) ++ tree.ids) := by
                  simp only [List.append_assoc]
                  exact List.perm_append_comm.append_left _
          · next noneInside =>
              have absent := find?_eq_none.mp noneInside
              have same : children.erase target = children := erase_eq_self absent
              rw [same, List.append_assoc]
              exact ((ihRest after found).append_left _).cons id

theorem WellNested.find? {target : NodeId} {forest : Forest} {tree : Tree}
    (nested : forest.WellNested) (found : forest.find? target = some tree) :
    (ofTree tree).WellNested := by
  induction forest with
  | nil => simp [Forest.find?] at found
  | cons id data children rest ihChildren ihRest =>
      obtain ⟨holder, inside, after⟩ := nested
      simp only [Forest.find?] at found
      split at found
      · cases found
        exact ⟨holder, inside, trivial⟩
      · split at found
        · next foundInside => cases found; exact ihChildren inside foundInside
        · exact ihRest after found

theorem appendTo_append (parent : NodeId) (added first second : Forest) :
    appendTo parent added (first ++ second) =
      appendTo parent added first ++ appendTo parent added second := by
  induction first with
  | nil => rfl
  | cons id data children rest _ ih => simp only [cons_append, appendTo, ih]

theorem appendTo_eq_self {parent : NodeId} {forest : Forest} (added : Forest)
    (absent : parent ∉ forest.ids) : appendTo parent added forest = forest := by
  induction forest with
  | nil => rfl
  | cons id data children rest ihChildren ihRest =>
      simp only [ids_cons, List.mem_cons, List.mem_append, not_or] at absent
      obtain ⟨different, notInside, notAfter⟩ := absent
      simp [appendTo, Ne.symm different, ihChildren notInside, ihRest notAfter]

/-- New last children of a node are the only new nodes, if they find a place. -/
theorem ids_appendTo {forest : Forest} (parent : NodeId) (added : Forest)
    (distinct : forest.ids.Nodup) :
    (appendTo parent added forest).ids.Perm (forest.ids ++ added.ids) ∨
      appendTo parent added forest = forest := by
  induction forest with
  | nil => exact .inr rfl
  | cons id data children rest ihChildren ihRest =>
      simp only [ids_cons, List.nodup_cons, List.nodup_append, List.mem_append,
        not_or] at distinct
      obtain ⟨⟨notInside, notAfter⟩, inside, after, apart⟩ := distinct
      simp only [appendTo]
      by_cases here : id = parent
      · subst here
        rw [appendTo_eq_self added notInside, appendTo_eq_self added notAfter]
        split
        · left
          simp only [ids_cons, ids_append, List.cons_append, List.append_assoc]
          exact (List.perm_append_comm.append_left _).cons id
        · exact .inr rfl
      · simp only [here, decide_false, Bool.false_and, Bool.false_eq_true, if_false]
        by_cases below : parent ∈ children.ids
        · have same : appendTo parent added rest = rest := appendTo_eq_self added
            fun other => apart _ below _ other rfl
          rw [same]
          refine (ihChildren inside).imp (fun perm => ?_) (fun equality => by rw [equality])
          simp only [ids_cons, List.cons_append]
          refine List.Perm.cons id ((perm.append_right _).trans ?_)
          simp only [List.append_assoc]
          exact List.perm_append_comm.append_left _
        · rw [appendTo_eq_self added below]
          refine (ihRest after).imp (fun perm => ?_) (fun equality => by rw [equality])
          simp only [ids_cons, List.cons_append, List.append_assoc]
          exact (perm.append_left _).cons id

private theorem WellNested.appendTo {forest added : Forest} (nested : forest.WellNested)
    (parent : NodeId) (new : added.WellNested) :
    (Forest.appendTo parent added forest).WellNested := by
  induction forest with
  | nil => exact trivial
  | cons id data children rest ihChildren ihRest =>
      obtain ⟨holder, inside, after⟩ := nested
      simp only [Forest.appendTo]
      refine ⟨?_, ?_, ihRest after⟩
      · refine holder.elim .inl fun none => ?_
        subst none
        by_cases element : data.isElement = true
        · exact .inl element
        · simp [element, Forest.appendTo]
      · split
        · exact (wellNested_append _ _).mpr ⟨ihChildren inside, new⟩
        · exact ihChildren inside

theorem insertBefore_append (mark : NodeId) (added first second : Forest) :
    insertBefore mark added (first ++ second) =
      insertBefore mark added first ++ insertBefore mark added second := by
  induction first with
  | nil => rfl
  | cons id data children rest _ ih =>
      simp only [cons_append, insertBefore, ih]
      split
      · simp only [append_assoc, cons_append]
      · rfl

theorem insertBefore_eq_self {mark : NodeId} {forest : Forest} (added : Forest)
    (absent : mark ∉ forest.ids) : insertBefore mark added forest = forest := by
  induction forest with
  | nil => rfl
  | cons id data children rest ihChildren ihRest =>
      simp only [ids_cons, List.mem_cons, List.mem_append, not_or] at absent
      obtain ⟨different, notInside, notAfter⟩ := absent
      simp [insertBefore, Ne.symm different, ihChildren notInside, ihRest notAfter]

/-- New nodes before a node are the only new nodes, if they find a place. -/
theorem ids_insertBefore {forest : Forest} (mark : NodeId) (added : Forest)
    (distinct : forest.ids.Nodup) :
    (insertBefore mark added forest).ids.Perm (forest.ids ++ added.ids) ∨
      insertBefore mark added forest = forest := by
  induction forest with
  | nil => exact .inr rfl
  | cons id data children rest ihChildren ihRest =>
      simp only [ids_cons, List.nodup_cons, List.nodup_append, List.mem_append,
        not_or] at distinct
      obtain ⟨⟨notInside, notAfter⟩, inside, after, apart⟩ := distinct
      simp only [insertBefore]
      by_cases here : id = mark
      · subst here
        rw [insertBefore_eq_self added notInside, insertBefore_eq_self added notAfter]
        left
        simp only [if_true, ids_append]
        exact List.perm_append_comm
      · simp only [here, if_false]
        by_cases below : mark ∈ children.ids
        · have same : insertBefore mark added rest = rest := insertBefore_eq_self added
            fun other => apart _ below _ other rfl
          rw [same]
          refine (ihChildren inside).imp (fun perm => ?_) (fun equality => by rw [equality])
          simp only [ids_cons, List.cons_append]
          refine List.Perm.cons id ((perm.append_right _).trans ?_)
          simp only [List.append_assoc]
          exact List.perm_append_comm.append_left _
        · rw [insertBefore_eq_self added below]
          refine (ihRest after).imp (fun perm => ?_) (fun equality => by rw [equality])
          simp only [ids_cons, List.cons_append, List.append_assoc]
          exact (perm.append_left _).cons id

private theorem WellNested.insertBefore {forest added : Forest} (nested : forest.WellNested)
    (mark : NodeId) (new : added.WellNested) :
    (Forest.insertBefore mark added forest).WellNested := by
  induction forest with
  | nil => exact trivial
  | cons id data children rest ihChildren ihRest =>
      obtain ⟨holder, inside, after⟩ := nested
      have node : (Forest.cons id data (Forest.insertBefore mark added children)
          (Forest.insertBefore mark added rest)).WellNested := by
        refine ⟨holder.imp_right fun none => ?_, ihChildren inside, ihRest after⟩
        rw [none, Forest.insertBefore]
      simp only [Forest.insertBefore]
      split
      · exact (wellNested_append _ _).mpr ⟨new, node⟩
      · exact node

theorem modify_append (target : NodeId) (change : NodeData → NodeData)
    (first second : Forest) :
    (first ++ second).modify target change =
      first.modify target change ++ second.modify target change := by
  induction first with
  | nil => rfl
  | cons id data children rest _ ih => simp only [cons_append, modify, ih]

@[simp] theorem ids_modify (target : NodeId) (change : NodeData → NodeData)
    (forest : Forest) : (forest.modify target change).ids = forest.ids := by
  induction forest with
  | nil => rfl
  | cons id data children rest ihChildren ihRest =>
      simp only [modify, ids_cons, ihChildren, ihRest]

private theorem WellNested.modify {forest : Forest} (nested : forest.WellNested)
    (target : NodeId) {change : NodeData → NodeData}
    (same : ∀ data, (change data).isElement = data.isElement) :
    (forest.modify target change).WellNested := by
  induction forest with
  | nil => exact trivial
  | cons id data children rest ihChildren ihRest =>
      obtain ⟨holder, inside, after⟩ := nested
      refine ⟨?_, ihChildren inside, ihRest after⟩
      refine holder.imp (fun element => ?_) (fun none => ?_)
      · split
        · rw [same, element]
        · exact element
      · rw [none, Forest.modify]

namespace Sound

variable {forest added : Forest} {next : NodeId}

private theorem of_sublist {smaller : Forest} (sound : forest.Sound next)
    (sublist : smaller.ids.Sublist forest.ids) (nested : smaller.WellNested) :
    smaller.Sound next :=
  ⟨sublist.nodup sound.distinct, fun id member => sound.below id (sublist.subset member),
    nested⟩

theorem of_perm {other : Forest} (sound : forest.Sound next)
    (perm : other.ids.Perm forest.ids) (nested : other.WellNested) : other.Sound next :=
  ⟨perm.nodup_iff.mpr sound.distinct, fun id member => sound.below id (perm.subset member),
    nested⟩

private theorem mono {later : NodeId} (sound : forest.Sound next) (le : next ≤ later) :
    forest.Sound later :=
  ⟨sound.distinct, fun id member => Nat.lt_of_lt_of_le (sound.below id member) le,
    sound.wellNested⟩

theorem left (sound : (forest ++ added).Sound next) : forest.Sound next :=
  sound.of_sublist (by simp) ((wellNested_append _ _).mp sound.wellNested).1

theorem without (sound : forest.Sound next) (drop : NodeId → Bool) :
    (forest.without drop).Sound next :=
  sound.of_sublist (ids_without_sublist _ _) (sound.wellNested.without _)

/-- A node that is taken out of its place stays with the others. -/
theorem takeOut {target : NodeId} {tree : Tree} (sound : forest.Sound next)
    (found : forest.find? target = some tree) :
    (forest.erase target ++ ofTree tree).Sound next := by
  refine sound.of_perm ?_ ((wellNested_append _ _).mpr
    ⟨sound.wellNested.without _, sound.wellNested.find? found⟩)
  rw [ids_append, ids_ofTree]
  exact (ids_perm_of_find? sound.distinct found).symm

theorem appendTo (sound : (forest ++ added).Sound next) (parent : NodeId) :
    (Forest.appendTo parent added forest).Sound next := by
  obtain ⟨nested, new⟩ := (wellNested_append _ _).mp sound.wellNested
  rcases ids_appendTo parent added sound.left.distinct with perm | same
  · exact sound.of_perm (by simpa using perm) (nested.appendTo parent new)
  · rw [same]
    exact sound.left

theorem insertBefore (sound : (forest ++ added).Sound next) (mark : NodeId) :
    (Forest.insertBefore mark added forest).Sound next := by
  obtain ⟨nested, new⟩ := (wellNested_append _ _).mp sound.wellNested
  rcases ids_insertBefore mark added sound.left.distinct with perm | same
  · exact sound.of_perm (by simpa using perm) (nested.insertBefore mark new)
  · rw [same]
    exact sound.left

theorem modify (sound : forest.Sound next) (target : NodeId)
    {change : NodeData → NodeData}
    (same : ∀ data, (change data).isElement = data.isElement) :
    (forest.modify target change).Sound next :=
  sound.of_perm (.of_eq (ids_modify target change forest))
    (sound.wellNested.modify target same)

/-- New nodes whose identifiers go on from the first that is not in use. -/
theorem extend {later : NodeId} (sound : forest.Sound next)
    (new : added.Sound later) (le : next ≤ later)
    (unused : ∀ id ∈ added.ids, next ≤ id) : (forest ++ added).Sound later := by
  refine ⟨?_, ?_, (wellNested_append _ _).mpr ⟨sound.wellNested, new.wellNested⟩⟩
  · rw [ids_append, List.nodup_append]
    refine ⟨sound.distinct, new.distinct, fun id member other memberNew equality => ?_⟩
    subst equality
    exact absurd (sound.below id member) (Nat.not_lt.mpr (unused id memberNew))
  · intro id member
    rw [ids_append, List.mem_append] at member
    exact member.elim ((sound.mono le).below id) (new.below id)

end Sound

theorem renumber_next (forest : Forest) (first : NodeId) :
    (forest.renumber first).2 = first + forest.size := by
  induction forest generalizing first with
  | nil => rfl
  | cons id data children rest ihChildren ihRest =>
      simp only [renumber, size, ihChildren, ihRest]
      ac_rfl

theorem ids_renumber (forest : Forest) (first : NodeId) :
    (forest.renumber first).1.ids = List.range' first forest.size := by
  induction forest generalizing first with
  | nil => rfl
  | cons id data children rest ihChildren ihRest =>
      simp only [renumber, ids_cons, size, ihChildren, ihRest, renumber_next,
        List.range'_succ, List.range'_append_1]

private theorem WellNested.renumber {forest : Forest} (nested : forest.WellNested)
    (first : NodeId) : (forest.renumber first).1.WellNested := by
  induction forest generalizing first with
  | nil => exact trivial
  | cons id data children rest ihChildren ihRest =>
      obtain ⟨holder, inside, after⟩ := nested
      refine ⟨holder.imp_right fun none => ?_, ihChildren inside _, ihRest after _⟩
      rw [none, Forest.renumber]

theorem WellNested.sound_renumber {forest : Forest} (nested : forest.WellNested) :
    (forest.renumber 0).1.Sound (forest.renumber 0).2 := by
  refine ⟨?_, ?_, nested.renumber 0⟩
  · rw [ids_renumber]
    exact List.nodup_range'
  · intro id member
    rw [ids_renumber, List.mem_range'_1] at member
    rw [renumber_next]
    exact member.2

end Forest

end MailQuote.Html
