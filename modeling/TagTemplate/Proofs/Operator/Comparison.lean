import Mathlib.Order.Defs.Unbundled
import TagTemplate.Name
import TagTemplate.Operator
import TagTemplate.Proofs.Number.Nearest

/-!
# Relational operators

Equality and order are computed apart, each with its own look at the left operand, and six operators
read them off. They fit together because both place the operands in the same way: numbers on the
extended line, truth values below and above, and texts among the lists of code points, in the order
of dictionaries. NaN has no place, and nothing else keeps two operands apart. Two texts may share a
place without being the same text, so their order is a weak one.
-/

namespace TagTemplate

/-- Characters are compared as the lists of their code points, in the order of dictionaries. -/
theorem compareChars_eq_compareLex (as bs : List Char) :
    compareChars as bs = List.compareLex compare (as.map Char.toNat) (bs.map Char.toNat) := by
  induction as generalizing bs with
  | nil => cases bs <;> rfl
  | cons a as ih =>
    cases bs with
    | nil => rfl
    | cons b bs =>
      rw [compareChars, List.map_cons, List.map_cons, List.compareLex_cons_cons, ih]

/-- Lists of characters of which neither comes first are the same list. -/
theorem compareChars_eq_eq {as bs : List Char} : compareChars as bs = .eq ↔ as = bs := by
  rw [compareChars_eq_compareLex, Std.LawfulEqCmp.compare_eq_iff_eq]
  exact List.map_inj_right fun _ _ h => Char.toNat_inj.mp h

namespace Collation

variable (collation : Collation) {s t u : String}

/-- The order of texts is the one of the code points that they are weighed by. -/
theorem order_eq_compareLex (s t : String) :
    collation.order s t = List.compareLex compare
      ((collation.weigh s).map Char.toNat) ((collation.weigh t).map Char.toNat) :=
  compareChars_eq_compareLex _ _

instance : Std.TransCmp collation.order where
  eq_swap {s t} := by
    rw [order_eq_compareLex, order_eq_compareLex]
    exact Std.OrientedCmp.eq_swap
  isLE_trans {s t u} hst htu := by
    rw [order_eq_compareLex] at hst htu ⊢
    exact Std.TransCmp.isLE_trans hst htu

/-- Texts share a place if they are weighed by the same characters. -/
theorem order_eq_eq : collation.order s t = .eq ↔ collation.weigh s = collation.weigh t :=
  compareChars_eq_eq

/-- Of two texts that share no place, one comes first. -/
theorem order_eq_eq_iff_not_lt :
    collation.order s t = .eq ↔ collation.order s t ≠ .lt ∧ collation.order t s ≠ .lt := by
  have hswap : collation.order t s = (collation.order s t).swap := Std.OrientedCmp.eq_swap
  rw [hswap]
  cases collation.order s t <;> simp

end Collation

namespace Number

/-- Two numbers are in no order exactly if NaN is one of them. -/
theorem order_eq_none_iff {x y : Number} : x.order y = none ↔ x = .nan ∨ y = .nan := by
  have hplace (z : Number) : z.place = none ↔ z = .nan := by
    cases z <;> simp [place]
  rw [← hplace, ← hplace]
  unfold order
  cases x.place <;> cases y.place <;> simp

end Number

namespace Value

variable {c : Coercion} {collation : Collation} {l r : Value}

/-- Operands that have an order when they stand on the left. -/
def Comparable : Value → Prop
  | .number _ | .bool _ | .text _ => True
  | _ => False

/-- A comparison of numbers of which one is NaN. -/
def MeetsNaN (l r : Value) : Prop :=
  ∃ x, l = .number x ∧ (x = .nan ∨ r.toNumber = .nan)

/-- Equality is the order in which neither operand comes first. -/
theorem equalTo_iff (hl : l.Comparable) :
    l.equalTo c collation r = true ↔ l.order c collation r = some .eq := by
  cases l with
  | number x => exact beq_iff_eq
  | bool b =>
    have hbool : (b == r.toBool) = true ↔ compare b.toNat r.toBool.toNat = .eq := by
      cases b <;> cases r.toBool <;> decide
    simp only [equalTo, order, Option.some.injEq]
    exact hbool
  | text s => simp [equalTo, order]
  | undefined | sequence _ | object _ => exact hl.elim

/-- There is always an order, unless a comparison of numbers meets NaN. -/
theorem order_eq_none_iff (hl : l.Comparable) :
    l.order c collation r = none ↔ l.MeetsNaN r := by
  cases l with
  | number x => simp [order, MeetsNaN, Number.order_eq_none_iff]
  | bool b => simp [order, MeetsNaN]
  | text s => simp [order, MeetsNaN]
  | undefined | sequence _ | object _ => exact hl.elim

end Value

namespace Operation

variable {c : Coercion} {collation : Collation} {l r : Value}

/-- The relation that an operation stands for: its result is true. -/
def Holds (op : Operation) (c : Coercion) (collation : Collation) (l r : Value) : Prop :=
  op.binary c collation l r = .bool true

/-- Where the result is a truth value, the relation holds exactly if it is the true one. -/
theorem holds_iff {op : Operation} {b : Bool} (h : op.binary c collation l r = .bool b) :
    op.Holds c collation l r ↔ b = true := by
  rw [Holds, h, Value.bool.injEq]

@[simp] theorem holds_less :
    less.Holds c collation l r ↔ l.order c collation r = some .lt :=
  (holds_iff rfl).trans beq_iff_eq

@[simp] theorem holds_greater :
    greater.Holds c collation l r ↔ l.order c collation r = some .gt :=
  (holds_iff rfl).trans beq_iff_eq

@[simp] theorem holds_lessOrEqual :
    lessOrEqual.Holds c collation l r ↔
      l.order c collation r = some .lt ∨ l.order c collation r = some .eq := by
  rw [holds_iff rfl]
  cases l.order c collation r with
  | none => simp
  | some o => cases o <;> simp

@[simp] theorem holds_greaterOrEqual :
    greaterOrEqual.Holds c collation l r ↔
      l.order c collation r = some .gt ∨ l.order c collation r = some .eq := by
  rw [holds_iff rfl]
  cases l.order c collation r with
  | none => simp
  | some o => cases o <;> simp

@[simp] theorem holds_equal :
    equal.Holds c collation l r ↔ l.equalTo c collation r = true :=
  holds_iff rfl

@[simp] theorem holds_notEqual :
    notEqual.Holds c collation l r ↔ l.equalTo c collation r = false := by
  rw [holds_iff rfl, Bool.not_eq_true']

/-- How the six relations between two operands fit together. -/
structure Consistent (c : Coercion) (collation : Collation) (l r : Value) : Prop where
  /-- Not to come after is to come before or to be equal. -/
  lessOrEqual_iff : lessOrEqual.Holds c collation l r ↔
    less.Holds c collation l r ∨ equal.Holds c collation l r
  /-- Not to come before is to come after or to be equal. -/
  greaterOrEqual_iff : greaterOrEqual.Holds c collation l r ↔
    greater.Holds c collation l r ∨ equal.Holds c collation l r
  /-- Unequal is what is not equal. -/
  notEqual_iff : notEqual.Holds c collation l r ↔ ¬ equal.Holds c collation l r
  /-- What comes before is not equal. -/
  not_less_and_equal : ¬ (less.Holds c collation l r ∧ equal.Holds c collation l r)
  /-- What comes after is not equal. -/
  not_greater_and_equal : ¬ (greater.Holds c collation l r ∧ equal.Holds c collation l r)
  /-- Nothing comes before and after. -/
  not_less_and_greater : ¬ (less.Holds c collation l r ∧ greater.Holds c collation l r)
  /-- One of the three holds, unless a comparison of numbers meets NaN. -/
  exists_iff : less.Holds c collation l r ∨ equal.Holds c collation l r ∨
    greater.Holds c collation l r ↔ ¬ l.MeetsNaN r

/-- With a left operand that has an order the relations fit together. -/
theorem consistent_of_comparable (hl : l.Comparable) : Consistent c collation l r := by
  have hequal : equal.Holds c collation l r ↔ l.order c collation r = some .eq :=
    holds_equal.trans (Value.equalTo_iff hl)
  refine ⟨?_, ?_, ?_, ?_, ?_, ?_, ?_⟩
  · rw [holds_lessOrEqual, holds_less, hequal]
  · rw [holds_greaterOrEqual, holds_greater, hequal]
  · rw [holds_notEqual, holds_equal, Bool.not_eq_true]
  · rw [holds_less, hequal]
    rintro ⟨hlt, heq⟩
    simp [hlt] at heq
  · rw [holds_greater, hequal]
    rintro ⟨hgt, heq⟩
    simp [hgt] at heq
  · rw [holds_less, holds_greater]
    rintro ⟨hlt, hgt⟩
    simp [hlt] at hgt
  · have hnone : l.order c collation r = none ↔ l.MeetsNaN r := Value.order_eq_none_iff hl
    rw [holds_less, hequal, holds_greater, ← hnone]
    cases l.order c collation r with
    | none => simp
    | some o => cases o <;> simp

/-- Texts come before one another as their collation orders them. -/
theorem holds_less_text {s t : String} :
    less.Holds c collation (.text s) (.text t) ↔ collation.order s t = .lt := by
  simp [Value.order, Coercion.text]

/-- Texts are equal if they share a place. -/
theorem holds_equal_text {s t : String} :
    equal.Holds c collation (.text s) (.text t) ↔ collation.order s t = .eq := by
  simp [Value.equalTo, Coercion.text]

/-- Among texts, to come before is a strict weak order. -/
theorem isStrictWeakOrder_less (c : Coercion) (collation : Collation) :
    IsStrictWeakOrder String fun s t => less.Holds c collation (.text s) (.text t) where
  irrefl s h := by
    have hself : collation.order s s = .eq := Std.ReflCmp.compare_self
    rw [holds_less_text, hself] at h
    exact absurd h (by decide)
  trans s t u hst htu := by
    rw [holds_less_text] at hst htu ⊢
    exact Std.TransCmp.lt_trans hst htu
  incomp_trans s t u hst htu := by
    simp only [holds_less_text] at hst htu ⊢
    have hsame : collation.weigh s = collation.weigh u := by
      rw [(collation.order_eq_eq).mp (collation.order_eq_eq_iff_not_lt.mpr hst)]
      exact (collation.order_eq_eq).mp (collation.order_eq_eq_iff_not_lt.mpr htu)
    exact collation.order_eq_eq_iff_not_lt.mp (collation.order_eq_eq.mpr hsame)

/-- Texts that share a place where case does not count are the same name where it does not. -/
theorem same_iff_holds_equal {s t : String} :
    NameCase.insensitive.same s t = true ↔
      equal.Holds c .ignoreCase (.text s) (.text t) := by
  rw [holds_equal_text, Collation.order_eq_eq]
  exact beq_iff_eq

/-- For every left operand that has an order the six relations fit together. Texts are in a strict
weak order in which those that share a place are the equal ones, and where case does not count
these are the texts that are one name. -/
theorem relations_consistent (c : Coercion) (collation : Collation) :
    (∀ l r : Value, l.Comparable → Consistent c collation l r) ∧
      (IsStrictWeakOrder String fun s t => less.Holds c collation (.text s) (.text t)) ∧
      (∀ s t : String,
        (¬ less.Holds c collation (.text s) (.text t) ∧
          ¬ less.Holds c collation (.text t) (.text s)) ↔
        equal.Holds c collation (.text s) (.text t)) ∧
      ∀ s t : String, equal.Holds c .ignoreCase (.text s) (.text t) ↔
        NameCase.insensitive.same s t = true := by
  refine ⟨fun l r => consistent_of_comparable, isStrictWeakOrder_less c collation, ?_, ?_⟩
  · intro s t
    rw [holds_less_text, holds_less_text, holds_equal_text]
    exact collation.order_eq_eq_iff_not_lt.symm
  · intro s t
    exact same_iff_holds_equal.symm

/-- A number compared with the text of one, and NaN compared with itself. -/
theorem relations_consistent_numbers :
    Consistent ⟨"undefined"⟩ .ordinal (.number (.ofInt 10)) (.text "9") ∧
      Consistent ⟨"undefined"⟩ .ignoreCase (.number .nan) (.number .nan) ∧
      Value.MeetsNaN (.number .nan) (.number .nan) :=
  ⟨(relations_consistent ⟨"undefined"⟩ .ordinal).1 _ _ trivial,
    (relations_consistent ⟨"undefined"⟩ .ignoreCase).1 _ _ trivial,
    .nan, rfl, .inl rfl⟩

end Operation
end TagTemplate
