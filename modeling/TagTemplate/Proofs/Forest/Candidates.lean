import Mathlib.Data.List.Forall2
import TagTemplate.Forest

/-!
# Candidates of an open directive

Narrowing the candidates tag by tag gives the same directives as comparing the tags of every
registered directive with all the tags that were taken. Comparison of shapes is an equivalence,
so the spelling in which a shape was read does not matter.
-/

namespace TagTemplate

variable {nameCase : NameCase}

namespace NameCase

/-- Every name is the same as itself. -/
theorem same_refl (nameCase : NameCase) (a : String) : nameCase.same a a = true := by
  cases nameCase <;> simp only [same, beq_self_eq_true]

/-- Sameness of names has no direction. -/
theorem same_symm {a b : String} (h : nameCase.same a b = true) : nameCase.same b a = true := by
  cases nameCase <;> simp only [same, beq_iff_eq] at h ⊢ <;> exact h.symm

/-- Names that are the same as a third are the same. -/
theorem same_trans {a b c : String} (h : nameCase.same a b = true)
    (hc : nameCase.same b c = true) : nameCase.same a c = true := by
  cases nameCase <;> simp only [same, beq_iff_eq] at h hc ⊢ <;> exact h.trans hc

end NameCase

namespace TagSlot

/-- Every slot is the same as itself. -/
theorem same_refl (nameCase : NameCase) (a : TagSlot) : a.same nameCase a = true := by
  cases a with
  | keyword word => exact nameCase.same_refl word
  | name => rfl
  | expression => rfl

/-- Sameness of slots has no direction. -/
theorem same_symm {a b : TagSlot} (h : a.same nameCase b = true) : b.same nameCase a = true := by
  cases a <;> cases b <;> first | exact NameCase.same_symm h | exact h

/-- Slots that are the same as a third are the same. -/
theorem same_trans {a b c : TagSlot} (h : a.same nameCase b = true)
    (hc : b.same nameCase c = true) : a.same nameCase c = true := by
  cases a <;> cases b <;> first | exact hc | contradiction | skip
  cases c <;> first | exact NameCase.same_trans h hc | contradiction

end TagSlot

namespace TagShape

@[simp] theorem sameSlots_cons (nameCase : NameCase) (a b : TagSlot) (as bs : List TagSlot) :
    sameSlots nameCase (a :: as) (b :: bs) =
      (a.same nameCase b && sameSlots nameCase as bs) := rfl

/-- Every shape is the same as itself. -/
theorem same_refl (nameCase : NameCase) (a : TagShape) : a.same nameCase a = true := by
  unfold same
  induction a.slots with
  | nil => rfl
  | cons slot slots ih =>
    rw [sameSlots_cons, slot.same_refl, ih]
    rfl

/-- Sameness of lists of slots has no direction. -/
theorem sameSlots_symm {as bs : List TagSlot} (h : sameSlots nameCase as bs = true) :
    sameSlots nameCase bs as = true := by
  induction as generalizing bs with
  | nil => cases bs with
    | nil => rfl
    | cons b bs => cases h
  | cons a as ih => cases bs with
    | nil => cases h
    | cons b bs =>
      rw [sameSlots_cons, Bool.and_eq_true] at h ⊢
      exact ⟨TagSlot.same_symm h.1, ih h.2⟩

/-- Lists of slots that are the same as a third are the same. -/
theorem sameSlots_trans {as bs cs : List TagSlot} (h : sameSlots nameCase as bs = true)
    (hc : sameSlots nameCase bs cs = true) : sameSlots nameCase as cs = true := by
  induction as generalizing bs cs with
  | nil => cases bs with
    | nil => exact hc
    | cons b bs => cases h
  | cons a as ih => cases bs with
    | nil => cases h
    | cons b bs => cases cs with
      | nil => cases hc
      | cons c cs =>
        rw [sameSlots_cons, Bool.and_eq_true] at h hc ⊢
        exact ⟨TagSlot.same_trans h.1 hc.1, ih h.2 hc.2⟩

/-- Sameness of shapes has no direction. -/
theorem same_symm {a b : TagShape} (h : a.same nameCase b = true) :
    b.same nameCase a = true :=
  sameSlots_symm h

/-- Shapes that are the same as a third are the same. -/
theorem same_trans {a b c : TagShape} (h : a.same nameCase b = true)
    (hc : b.same nameCase c = true) : a.same nameCase c = true :=
  sameSlots_trans h hc

/-- A shape is the same as another in every spelling of that one. -/
theorem same_congr {a b : TagShape} (h : a.same nameCase b = true) (expected : TagShape) :
    expected.same nameCase a = expected.same nameCase b :=
  Bool.eq_iff_iff.mpr ⟨fun he => same_trans he h, fun he => same_trans he (same_symm h)⟩

/-- Shapes that are, one by one, those that are declared. -/
abbrev AllSame (nameCase : NameCase) (declared shapes : List TagShape) : Prop :=
  List.Forall₂ (fun expected shape => expected.same nameCase shape = true) declared shapes

/-- Whether shapes are, in order, the first of those that are declared. -/
def leads (nameCase : NameCase) : List TagShape → List TagShape → Bool
  | _, [] => true
  | [], _ :: _ => false
  | expected :: declared, shape :: shapes =>
    expected.same nameCase shape && leads nameCase declared shapes

@[simp] theorem leads_nil (nameCase : NameCase) (declared : List TagShape) :
    leads nameCase declared [] = true := by
  cases declared <;> rfl

@[simp] theorem leads_cons (nameCase : NameCase) (expected shape : TagShape)
    (declared shapes : List TagShape) :
    leads nameCase (expected :: declared) (shape :: shapes) =
      (expected.same nameCase shape && leads nameCase declared shapes) := rfl

/-- Shapes lead if they are the same as as many declared ones. -/
theorem leads_iff (declared shapes : List TagShape) :
    leads nameCase declared shapes = true ↔
      AllSame nameCase (declared.take shapes.length) shapes := by
  induction shapes generalizing declared with
  | nil => simp only [leads_nil, List.length_nil, List.take_zero, List.Forall₂.nil]
  | cons shape shapes ih => cases declared with
    | nil => simp [leads]
    | cons expected declared => simp [ih]

/-- Shapes lead in whatever spelling they are given. -/
theorem leads_congr {shapes shapes' : List TagShape} (h : AllSame nameCase shapes shapes')
    (declared : List TagShape) :
    leads nameCase declared shapes = leads nameCase declared shapes' := by
  induction h generalizing declared with
  | nil => rfl
  | cons hs _ ih => cases declared with
    | nil => rfl
    | cons expected declared => rw [leads_cons, leads_cons, ih, same_congr hs expected]

/-- The first of the shapes that are declared lead. -/
theorem leads_of_allSame {declared shapes more : List TagShape}
    (h : AllSame nameCase declared (shapes ++ more)) : leads nameCase declared shapes = true := by
  induction shapes generalizing declared with
  | nil => exact leads_nil nameCase declared
  | cons shape shapes ih => cases h with
    | cons hs hm =>
      rw [leads_cons, hs, ih hm]
      rfl

/-- One more shape leads if it is the same as the declared one at its place. -/
theorem leads_concat (declared shapes : List TagShape) (shape : TagShape) :
    leads nameCase declared (shapes ++ [shape]) =
      (leads nameCase declared shapes &&
        match declared[shapes.length]? with
        | some expected => expected.same nameCase shape
        | none => false) := by
  induction shapes generalizing declared with
  | nil => cases declared with
    | nil => rfl
    | cons expected declared =>
      rw [List.nil_append, leads_cons, leads_nil, leads_nil, Bool.true_and, Bool.and_true]
      rfl
  | cons first shapes ih => cases declared with
    | nil => rfl
    | cons expected declared =>
      rw [List.cons_append, leads_cons, leads_cons, ih, Bool.and_assoc]
      rfl

end TagShape

/-- The shapes of tags, in order. -/
def LexedTag.shapes (tags : List LexedTag) : List TagShape := tags.map LexedTag.shape

@[simp] theorem LexedTag.length_shapes (tags : List LexedTag) :
    (shapes tags).length = tags.length := List.length_map _

@[simp] theorem LexedTag.shapes_append (tags tags' : List LexedTag) :
    shapes (tags ++ tags') = shapes tags ++ shapes tags' := List.map_append

namespace Dialect

/-- The directives of a dialect whose first tags have these shapes. -/
def opening (d : Dialect) (shapes : List TagShape) : List RegisteredDirective :=
  d.directives.filter fun r => TagShape.leads d.nameCase r.shapes shapes

/-- Such a directive is registered, and its first tags have these shapes. -/
theorem mem_opening {d : Dialect} {shapes : List TagShape} {r : RegisteredDirective} :
    r ∈ d.opening shapes ↔
      r ∈ d.directives ∧ TagShape.leads d.nameCase r.shapes shapes = true := by
  rw [opening, List.mem_filter]

/-- Before any tag every directive is a candidate. -/
theorem opening_nil (d : Dialect) : d.opening [] = d.directives := by
  unfold opening
  exact List.filter_eq_self.mpr fun r _ => TagShape.leads_nil d.nameCase r.shapes

/-- The candidates that a tag leaves are those that open with one tag more. -/
theorem accepting_opening (d : Dialect) (shapes : List TagShape) (shape : TagShape) :
    accepting d.nameCase shapes.length shape (d.opening shapes) =
      d.opening (shapes ++ [shape]) := by
  unfold accepting opening
  rw [List.filter_filter]
  refine List.filter_congr fun r _ => ?_
  exact (Bool.and_comm _ _).trans (TagShape.leads_concat r.shapes shapes shape).symm

/-- The candidates of a first tag. -/
theorem accepting_directives (d : Dialect) (shape : TagShape) :
    accepting d.nameCase 0 shape d.directives = d.opening [shape] := by
  have h := d.accepting_opening [] shape
  rwa [d.opening_nil] at h

end Dialect

/-- A directive is settled only if it is a candidate without further tags. -/
theorem mem_of_settled {matched : Nat} {candidates : List RegisteredDirective}
    {r : RegisteredDirective} (h : settled matched candidates = some r) :
    r ∈ candidates ∧ r.shapes.length = matched := by
  unfold settled at h
  split at h
  · next only hf =>
    cases h
    have hm : r ∈ candidates.filter fun c => c.shapes.length == matched := by
      rw [hf]
      exact List.mem_singleton_self r
    have hr := List.mem_filter.mp hm
    exact ⟨hr.1, beq_iff_eq.mp hr.2⟩
  · cases h

/-- A settled directive is registered, and its tags are those that were taken. -/
theorem Dialect.allSame_of_settled {d : Dialect} {shapes : List TagShape}
    {r : RegisteredDirective} (h : settled shapes.length (d.opening shapes) = some r) :
    r ∈ d.directives ∧ TagShape.AllSame d.nameCase r.shapes shapes := by
  obtain ⟨hm, hl⟩ := mem_of_settled h
  obtain ⟨hr, hs⟩ := Dialect.mem_opening.mp hm
  rw [TagShape.leads_iff, ← hl, List.take_length] at hs
  exact ⟨hr, hs⟩

end TagTemplate
