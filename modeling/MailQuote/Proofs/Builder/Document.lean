import MailQuote.Html.Document

namespace MailQuote.Html

def NodeData.isUnclosed (data : NodeData) : Bool :=
  data.name?.any Name.isUnclosed

namespace Forest

/-- Whether the elements without an end tag have no children. -/
def IsTidy : Forest → Prop
  | .nil => True
  | .cons _ data children rest =>
      (data.isUnclosed = true → children = .nil) ∧ children.IsTidy ∧ rest.IsTidy

/-- Whether a node may have children, as far as it is in a forest. -/
def MayHold (target : NodeId) : Forest → Prop
  | .nil => True
  | .cons id data children rest =>
      (id = target → data.isUnclosed = false) ∧ children.MayHold target ∧ rest.MayHold target

section

variable {forest added : Forest} {target parent mark : NodeId} {tree : Tree}
  {change : NodeData → NodeData}

@[simp] theorem isTidy_append (first second : Forest) :
    (first ++ second).IsTidy ↔ first.IsTidy ∧ second.IsTidy := by
  induction first with
  | nil => simp [IsTidy]
  | cons id data children rest _ ih => simp [IsTidy, ih, and_assoc]

@[simp] theorem mayHold_append (first second : Forest) :
    (first ++ second).MayHold target ↔ first.MayHold target ∧ second.MayHold target := by
  induction first with
  | nil => simp [MayHold]
  | cons id data children rest _ ih => simp [MayHold, ih, and_assoc]

private theorem mayHold_of_not_mem (absent : target ∉ forest.ids) : forest.MayHold target := by
  induction forest with
  | nil => trivial
  | cons id data children rest ihChildren ihRest =>
      simp only [ids_cons, List.mem_cons, List.mem_append, not_or] at absent
      exact ⟨fun here => absurd here.symm absent.1, ihChildren absent.2.1, ihRest absent.2.2⟩

private theorem IsTidy.without (tidy : forest.IsTidy) (drop : NodeId → Bool) :
    (forest.without drop).IsTidy := by
  induction forest with
  | nil => trivial
  | cons id data children rest ihChildren ihRest =>
      obtain ⟨childless, inside, after⟩ := tidy
      simp only [Forest.without]
      split
      · exact ihRest after
      · refine ⟨fun unclosed => ?_, ihChildren inside, ihRest after⟩
        rw [childless unclosed, Forest.without]

private theorem MayHold.without (holds : forest.MayHold target) (drop : NodeId → Bool) :
    (forest.without drop).MayHold target := by
  induction forest with
  | nil => trivial
  | cons id data children rest ihChildren ihRest =>
      obtain ⟨here, inside, after⟩ := holds
      simp only [Forest.without]
      split
      · exact ihRest after
      · exact ⟨here, ihChildren inside, ihRest after⟩

private theorem IsTidy.find? (tidy : forest.IsTidy) (found : forest.find? target = some tree) :
    (ofTree tree).IsTidy := by
  induction forest with
  | nil => cases found
  | cons id data children rest ihChildren ihRest =>
      obtain ⟨childless, inside, after⟩ := tidy
      simp only [Forest.find?] at found
      split at found
      · cases found
        exact ⟨childless, inside, trivial⟩
      · split at found
        · next foundInside => cases found; exact ihChildren inside foundInside
        · exact ihRest after found

private theorem MayHold.find? {other : NodeId} (holds : forest.MayHold target)
    (found : forest.find? other = some tree) : (ofTree tree).MayHold target := by
  induction forest with
  | nil => cases found
  | cons id data children rest ihChildren ihRest =>
      obtain ⟨here, inside, after⟩ := holds
      simp only [Forest.find?] at found
      split at found
      · cases found
        exact ⟨here, inside, trivial⟩
      · split at found
        · next foundInside => cases found; exact ihChildren inside foundInside
        · exact ihRest after found

private theorem IsTidy.appendTo (tidy : forest.IsTidy) (new : added.IsTidy)
    (holds : forest.MayHold parent) : (Forest.appendTo parent added forest).IsTidy := by
  induction forest with
  | nil => trivial
  | cons id data children rest ihChildren ihRest =>
      obtain ⟨childless, inside, after⟩ := tidy
      obtain ⟨here, holdsInside, holdsAfter⟩ := holds
      simp only [Forest.appendTo]
      refine ⟨fun unclosed => ?_, ?_, ihRest after holdsAfter⟩
      · have elsewhere : id ≠ parent := fun same => by
          rw [here same] at unclosed
          cases unclosed
        simp [elsewhere, childless unclosed, Forest.appendTo]
      · split
        · exact (isTidy_append _ _).mpr ⟨ihChildren inside holdsInside, new⟩
        · exact ihChildren inside holdsInside

private theorem MayHold.appendTo (holds : forest.MayHold target) (new : added.MayHold target) :
    (Forest.appendTo parent added forest).MayHold target := by
  induction forest with
  | nil => trivial
  | cons id data children rest ihChildren ihRest =>
      obtain ⟨here, inside, after⟩ := holds
      refine ⟨here, ?_, ihRest after⟩
      split
      · exact (mayHold_append _ _).mpr ⟨ihChildren inside, new⟩
      · exact ihChildren inside

private theorem IsTidy.insertBefore (tidy : forest.IsTidy) (new : added.IsTidy) :
    (Forest.insertBefore mark added forest).IsTidy := by
  induction forest with
  | nil => trivial
  | cons id data children rest ihChildren ihRest =>
      obtain ⟨childless, inside, after⟩ := tidy
      have node : (Forest.cons id data (Forest.insertBefore mark added children)
          (Forest.insertBefore mark added rest)).IsTidy := by
        refine ⟨fun unclosed => ?_, ihChildren inside, ihRest after⟩
        rw [childless unclosed, Forest.insertBefore]
      simp only [Forest.insertBefore]
      split
      · exact (isTidy_append _ _).mpr ⟨new, node⟩
      · exact node

private theorem MayHold.insertBefore (holds : forest.MayHold target) (new : added.MayHold target) :
    (Forest.insertBefore mark added forest).MayHold target := by
  induction forest with
  | nil => trivial
  | cons id data children rest ihChildren ihRest =>
      obtain ⟨here, inside, after⟩ := holds
      have node : (Forest.cons id data (Forest.insertBefore mark added children)
          (Forest.insertBefore mark added rest)).MayHold target :=
        ⟨here, ihChildren inside, ihRest after⟩
      simp only [Forest.insertBefore]
      split
      · exact (mayHold_append _ _).mpr ⟨new, node⟩
      · exact node

private theorem IsTidy.modify (tidy : forest.IsTidy)
    (same : ∀ data, (change data).isUnclosed = data.isUnclosed) :
    (forest.modify target change).IsTidy := by
  induction forest with
  | nil => trivial
  | cons id data children rest ihChildren ihRest =>
      obtain ⟨childless, inside, after⟩ := tidy
      refine ⟨fun unclosed => ?_, ihChildren inside, ihRest after⟩
      rw [apply_ite NodeData.isUnclosed, same, ite_self] at unclosed
      rw [childless unclosed, Forest.modify]

private theorem MayHold.modify {other : NodeId} (holds : forest.MayHold target)
    (same : ∀ data, (change data).isUnclosed = data.isUnclosed) :
    (forest.modify other change).MayHold target := by
  induction forest with
  | nil => trivial
  | cons id data children rest ihChildren ihRest =>
      obtain ⟨here, inside, after⟩ := holds
      refine ⟨fun equality => ?_, ihChildren inside, ihRest after⟩
      rw [apply_ite NodeData.isUnclosed, same, ite_self]
      exact here equality

private theorem IsTidy.renumber (tidy : forest.IsTidy) (first : NodeId) :
    (forest.renumber first).1.IsTidy := by
  induction forest generalizing first with
  | nil => trivial
  | cons id data children rest ihChildren ihRest =>
      obtain ⟨childless, inside, after⟩ := tidy
      refine ⟨fun unclosed => ?_, ihChildren inside _, ihRest after _⟩
      rw [childless unclosed, Forest.renumber]

end

end Forest

namespace Document

open Forest

def IsTidy (document : Document) : Prop :=
  (join document.rows).IsTidy

/-- Whether a node of a document may have children. -/
structure MayHold (document : Document) (target : NodeId) : Prop where
  known : target < document.next
  holds : (join document.rows).MayHold target

/-- A change that leaves a document tidy, and that makes no node which may have children
into one which may not. -/
structure Grows (before after : Document) : Prop where
  tidy : before.IsTidy → after.IsTidy
  holds : ∀ {target : NodeId}, before.MayHold target → after.MayHold target

namespace Grows

variable {first second third : Document}

theorem refl (document : Document) : document.Grows document := ⟨id, id⟩

theorem trans (earlier : first.Grows second) (later : second.Grows third) :
    first.Grows third :=
  ⟨later.tidy ∘ earlier.tidy, later.holds ∘ earlier.holds⟩

private theorem of_rows (le : first.next ≤ second.next)
    (tidy : (join first.rows).IsTidy → (join second.rows).IsTidy)
    (holds : ∀ target < first.next, (join first.rows).MayHold target →
      (join second.rows).MayHold target) : first.Grows second :=
  ⟨tidy, fun {target} held =>
    ⟨Nat.lt_of_lt_of_le held.known le, holds target held.known held.holds⟩⟩

end Grows

variable {document : Document} {parent target mark : NodeId} {tree : Tree}

section TakeOut

variable (found : document.find? target = some tree)

include found

private theorem isTidy_of_find? (tidy : (join document.rows).IsTidy) : (ofTree tree).IsTidy :=
  tidy.find? (document.find?_eq_join target ▸ found)

private theorem mayHold_of_find? {other : NodeId} (holds : (join document.rows).MayHold other) :
    (ofTree tree).MayHold other :=
  holds.find? (document.find?_eq_join target ▸ found)

end TakeOut

private theorem join_rows_map (document : Document) (change : Forest → Forest)
    (nil : change .nil = .nil)
    (append : ∀ first second, change (first ++ second) = change first ++ change second)
    (target : NodeId) :
    join ((document.erase target).rows.map change) =
      change ((join document.rows).erase target) := by
  rw [join_map change nil append, join_rows_erase]

theorem grows_detach (document : Document) (target : NodeId) :
    document.Grows (document.detach target) := by
  unfold detach
  split
  · next tree found =>
      have rows : join ((document.erase target).rows ++ [ofTree tree]) =
          (join document.rows).erase target ++ ofTree tree := by
        rw [join_append, join_rows_erase, join_cons, join_nil, append_nil]
      refine .of_rows (Nat.le_refl _) (fun tidy => ?_) (fun other _ holds => ?_)
      · change (join ((document.erase target).rows ++ [ofTree tree])).IsTidy
        rw [rows, isTidy_append]
        exact ⟨tidy.without _, isTidy_of_find? found tidy⟩
      · change (join ((document.erase target).rows ++ [ofTree tree])).MayHold other
        rw [rows, mayHold_append]
        exact ⟨holds.without _, mayHold_of_find? found holds⟩
  · exact .refl document

theorem grows_append (holds : document.MayHold parent) (target : NodeId) :
    document.Grows (document.append parent target) := by
  unfold append
  split
  · next tree found =>
      have rows := document.join_rows_map (appendTo parent (ofTree tree)) rfl
        (appendTo_append parent _) target
      refine .of_rows (Nat.le_refl _) (fun tidy => ?_) (fun other _ held => ?_)
      · change (join ((document.erase target).rows.map _)).IsTidy
        rw [rows]
        exact (tidy.without _).appendTo (isTidy_of_find? found tidy) (holds.holds.without _)
      · change (join ((document.erase target).rows.map _)).MayHold other
        rw [rows]
        exact (held.without _).appendTo (mayHold_of_find? found held)
  · exact .refl document

theorem grows_appendTop (document : Document) (target : NodeId) :
    document.Grows (document.appendTop target) := by
  unfold appendTop
  split
  · next tree found =>
      have erased := document.join_rows_erase target
      rw [rows, join_cons] at erased
      refine .of_rows (Nat.le_refl _) (fun tidy => ?_) (fun other _ holds => ?_)
      · have kept := tidy.without (· == target)
        rw [← Forest.erase, ← erased, isTidy_append] at kept
        rw [rows, join_cons, isTidy_append, isTidy_append]
        exact ⟨⟨kept.1, isTidy_of_find? found tidy⟩, kept.2⟩
      · have kept := holds.without (· == target)
        rw [← Forest.erase, ← erased, mayHold_append] at kept
        rw [rows, join_cons, mayHold_append, mayHold_append]
        exact ⟨⟨kept.1, mayHold_of_find? found holds⟩, kept.2⟩
  · exact .refl document

theorem grows_insertBefore (document : Document) (mark target : NodeId) :
    document.Grows (document.insertBefore mark target) := by
  unfold insertBefore
  split
  · next tree found =>
      have rows := document.join_rows_map (Forest.insertBefore mark (ofTree tree)) rfl
        (insertBefore_append mark _) target
      refine .of_rows (Nat.le_refl _) (fun tidy => ?_) (fun other _ holds => ?_)
      · change (join ((document.erase target).rows.map _)).IsTidy
        rw [rows]
        exact (tidy.without _).insertBefore (isTidy_of_find? found tidy)
      · change (join ((document.erase target).rows.map _)).MayHold other
        rw [rows]
        exact (holds.without _).insertBefore (mayHold_of_find? found holds)
  · exact .refl document

theorem grows_create (document : Document) (data : NodeData) :
    document.Grows (document.create data).2 := by
  have rows : join (document.create data).2.rows =
      join document.rows ++ .cons document.next data .nil .nil := by
    change join (document.rows ++ [_]) = _
    rw [join_append, join_cons, join_nil, append_nil]
  refine .of_rows (Nat.le_succ _) (fun tidy => ?_) (fun other known holds => ?_)
  · rw [rows, isTidy_append]
    exact ⟨tidy, fun _ => rfl, trivial, trivial⟩
  · rw [rows, mayHold_append]
    exact ⟨holds, fun new => absurd new (Nat.ne_of_gt known), trivial, trivial⟩

/-- A new node may have children unless it is an element without an end tag. -/
theorem mayHold_create (document : Document) {data : NodeData}
    (closed : data.isUnclosed = false) :
    (document.create data).2.MayHold (document.create data).1 := by
  refine ⟨Nat.lt_succ_self _, ?_⟩
  change (join (document.rows ++ [.cons document.next data .nil .nil])).MayHold document.next
  rw [join_append, join_cons, join_nil, append_nil, mayHold_append]
  refine ⟨mayHold_of_not_mem fun member => ?_, fun _ => closed, trivial, trivial⟩
  exact Nat.lt_irrefl _ (document.sound.below _ member)

private theorem grows_modify (document : Document) (target : NodeId) {change : NodeData → NodeData}
    (same : ∀ data, (change data).isElement = data.isElement)
    (same' : ∀ data, (change data).isUnclosed = data.isUnclosed) :
    document.Grows (document.modify target change same) := by
  have rows : join (document.modify target change same).rows =
      (join document.rows).modify target change := by
    change join (document.rows.map (·.modify target change)) = _
    exact join_map _ rfl (modify_append target change) _
  refine .of_rows (Nat.le_refl _) (fun tidy => ?_) (fun other _ holds => ?_)
  · rw [rows]
    exact tidy.modify same'
  · rw [rows]
    exact holds.modify same'

theorem grows_addAttributes (document : Document) (target : NodeId) (attributes : List Attr) :
    document.Grows (document.addAttributes target attributes) :=
  document.grows_modify target _ fun data => by cases data <;> rfl

private theorem grows_foldl_append (holds : document.MayHold target) (children : List Tree) :
    document.Grows (children.foldl (fun document child => document.append target child.id)
      document) := by
  induction children generalizing document with
  | nil => exact .refl document
  | cons child children ih =>
      have first := grows_append holds child.id
      exact first.trans (ih (first.holds holds))

theorem grows_moveChildren (holds : document.MayHold target) (source : NodeId) :
    document.Grows (document.moveChildren source target) := by
  unfold moveChildren
  split
  · exact grows_foldl_append holds _
  · exact .refl document

private theorem grows_extendText? {node : Option Tree} {content : String} {extended : Document}
    (known : document.extendText? node content = some extended) :
    document.Grows extended := by
  unfold extendText? at known
  split at known
  · cases known
    exact document.grows_modify _ _ fun data => by cases data <;> rfl
  · cases known

theorem grows_appendText (holds : document.MayHold parent) (content : String) :
    document.Grows (document.appendText parent content) := by
  simp only [appendText]
  split
  · next known => exact grows_extendText? known
  · have new := document.grows_create (.text content)
    exact new.trans (grows_append (new.holds holds) _)

theorem grows_insertTextBefore (document : Document) (mark : NodeId) (content : String) :
    document.Grows (document.insertTextBefore mark content) := by
  simp only [insertTextBefore]
  split
  · next known => exact grows_extendText? known
  · exact (document.grows_create (.text content)).trans (grows_insertBefore _ _ _)

theorem isTidy_settle (tidy : document.IsTidy) : document.settle.content.IsTidy := by
  rw [IsTidy, rows, join_cons, isTidy_append] at tidy
  exact tidy.1.renumber 0

end Document

end MailQuote.Html
