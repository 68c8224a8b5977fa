import TagTemplate.Lex

/-!
# Searching in order

A fitting tries places one after the other, in an order that says which it prefers. What it finds
fits at the first place where anything does. If it finds nothing, then nothing fits anywhere, and it
has noted the first of all failures. Fittings of this kind are put together from smaller ones: one
search after another, a search under a change of places, a failure noted before a search.
-/

namespace TagTemplate

section Order

variable {ι κ α β : Type} {before : ι → ι → Prop} {before' : κ → κ → Prop} {p q : ι → α → Prop}
  {x y : Option α}

/-- What is at the first place where something is, and alone there; nothing if there is nothing
anywhere. -/
def FirstOf (before : ι → ι → Prop) (p : ι → α → Prop) : Option α → Prop
  | none => ∀ i a, ¬ p i a
  | some a => ∃ i, p i a ∧ ∀ j b, p j b → j = i ∧ b = a ∨ before i j

namespace FirstOf

theorem of_iff (h : FirstOf before p x) (hpq : ∀ i a, q i a ↔ p i a) : FirstOf before q x := by
  have : q = p := funext fun i => funext fun a => propext (hpq i a)
  exact this ▸ h

/-- There is only one first. -/
theorem unique [Std.Asymm before] (hx : FirstOf before p x) (hy : FirstOf before p y) : x = y := by
  cases x with
  | none => cases y with
    | none => rfl
    | some b =>
      obtain ⟨j, hb, -⟩ := hy
      exact absurd hb (hx j b)
  | some a =>
    obtain ⟨i, ha, hi⟩ := hx
    cases y with
    | none => exact absurd ha (hy i a)
    | some b =>
      obtain ⟨j, hb, hj⟩ := hy
      obtain ⟨-, rfl⟩ | hij := hi j b hb
      · rfl
      · obtain ⟨-, rfl⟩ | hji := hj i a ha
        · rfl
        · exact absurd hji (Std.Asymm.asymm i j hij)

/-- The first of two groups, if all of the one comes before all of the other. -/
theorem or (hx : FirstOf before p x) (hy : FirstOf before q y)
    (hpq : ∀ i j a b, p i a → q j b → before i j) :
    FirstOf before (fun i a => p i a ∨ q i a) (x.or y) := by
  cases x with
  | none => exact hy.of_iff fun i a => or_iff_right (hx i a)
  | some a =>
    obtain ⟨i, ha, hi⟩ := hx
    refine ⟨i, .inl ha, fun j b hb => ?_⟩
    obtain hb | hb := hb
    · exact hi j b hb
    · exact .inr (hpq i j a b ha hb)

/-- The first, seen from places in the same order. -/
theorem map (hx : FirstOf before p x) (place : ι → κ) (g : α → β)
    (hplace : ∀ i j, before i j → before' (place i) (place j)) :
    FirstOf before' (fun k b => ∃ i a, p i a ∧ k = place i ∧ b = g a) (x.map g) := by
  cases x with
  | none =>
    rintro k b ⟨i, a, ha, -⟩
    exact hx i a ha
  | some a =>
    obtain ⟨i, ha, hi⟩ := hx
    refine ⟨place i, ⟨i, a, ha, rfl, rfl⟩, ?_⟩
    rintro k b ⟨j, c, hc, rfl, rfl⟩
    obtain ⟨rfl, rfl⟩ | hij := hi j c hc
    · exact .inl ⟨rfl, rfl⟩
    · exact .inr (hplace i j hij)

end FirstOf

end Order

namespace TagShape

variable {ι κ α β : Type} {before : ι → ι → Prop} {before' : κ → κ → Prop}
  {fits fits' : ι → α → Prop} {fails fails' : ι → Nat × ExprError → Prop}
  {x y : Fitting (Option α)}

/-- A fitting that goes through places in order: it finds what fits first, and if nothing fits, it
notes what fails first. -/
structure Explores (before : ι → ι → Prop) (fits : ι → α → Prop)
    (fails : ι → Nat × ExprError → Prop) (x : Fitting (Option α)) : Prop where
  /-- What is found fits first. -/
  finds (noted : Option (Nat × ExprError)) : FirstOf before fits (x.run noted).1
  /-- If nothing is found, the note is the old one, or what fails first. -/
  notes (noted : Option (Nat × ExprError)) (h : (x.run noted).1 = none) :
    ∃ failure, FirstOf before fails failure ∧ (x.run noted).2 = noted.or failure

namespace Explores

theorem of_iff (h : Explores before fits fails x) (hfits : ∀ i a, fits' i a ↔ fits i a)
    (hfails : ∀ i f, fails' i f ↔ fails i f) : Explores before fits' fails' x where
  finds noted := (h.finds noted).of_iff hfits
  notes noted hx :=
    let ⟨failure, hf, hn⟩ := h.notes noted hx
    ⟨failure, hf.of_iff hfails, hn⟩

/-- Where nothing fits and nothing fails, finding nothing is right. -/
theorem nothing (hfits : ∀ i a, ¬ fits i a) (hfails : ∀ i f, ¬ fails i f) :
    Explores before fits fails (pure none) where
  finds _ := hfits
  notes _ _ := ⟨none, hfails, Option.or_none.symm⟩

/-- Where only this fits, finding it is right. -/
theorem found {i : ι} {a : α} (hfits : ∀ j b, fits j b ↔ j = i ∧ b = a) :
    Explores before fits fails (pure (some a)) where
  finds _ := ⟨i, (hfits i a).mpr ⟨rfl, rfl⟩, fun j b h => .inl ((hfits j b).mp h)⟩
  notes _ h := nomatch h

/-- One search after another, over places that come after those of the first. -/
theorem orElse {z : Fitting (Option α)} (hx : Explores before fits fails x)
    (hy : Explores before fits' fails' y)
    (hfits : ∀ i j a b, fits i a → fits' j b → before i j)
    (hfails : ∀ i j f g, fails i f → fails' j g → before i j)
    (hz : z = x >>= fun found => match found with
      | some a => pure (some a)
      | none => y) :
    Explores before (fun i a => fits i a ∨ fits' i a) (fun i f => fails i f ∨ fails' i f) z := by
  subst hz
  have hrun : ∀ noted, StateT.run (x >>= fun found => match found with
      | some a => pure (some a)
      | none => y) noted = match x.run noted with
        | (some a, noted') => (some a, noted')
        | (none, noted') => y.run noted' := by
    intro noted
    change StateT.run (match (x.run noted).1 with
      | some a => pure (some a)
      | none => y) (x.run noted).2 = _
    rcases x.run noted with ⟨_ | a, noted'⟩ <;> rfl
  constructor
  · intro noted
    have hfound := hx.finds noted
    rw [hrun]
    rcases hxn : x.run noted with ⟨found, noted'⟩
    rw [hxn] at hfound
    have := hfound.or (hy.finds noted') hfits
    cases found <;> exact this
  · intro noted hnone
    rw [hrun] at hnone ⊢
    have hmissed := hx.notes noted
    rcases hxn : x.run noted with ⟨_ | a, noted'⟩
    · rw [hxn] at hnone hmissed
      obtain ⟨failure, hfirst, hnote⟩ := hmissed rfl
      obtain ⟨failure', hfirst', hnote'⟩ := hy.notes noted' hnone
      refine ⟨failure.or failure', hfirst.or hfirst' hfails, ?_⟩
      dsimp only at hnote ⊢
      rw [hnote', hnote, Option.or_assoc]
    · rw [hxn] at hnone
      cases hnone

/-- A failure noted before a search, at a place that comes before those of the search. -/
theorem note_bind {i : ι} {position : Nat} {error : ExprError}
    (hx : Explores before fits fails x) (hfails : ∀ j g, fails j g → before i j) :
    Explores before fits (fun j f => (j = i ∧ f = (position, error)) ∨ fails j f)
      (note position error >>= fun _ => x) where
  finds noted := hx.finds (noted.or (some (position, error)))
  notes noted hnone := by
    obtain ⟨failure, hfirst, hnote⟩ := hx.notes (noted.or (some (position, error))) hnone
    have hhere : FirstOf before (fun j f => j = i ∧ f = (position, error))
        (some (position, error)) :=
      ⟨i, ⟨rfl, rfl⟩, fun j f h => .inl h⟩
    refine ⟨(some (position, error)).or failure, hhere.or hfirst ?_, ?_⟩
    · rintro _ j _ g ⟨rfl, rfl⟩ hg
      exact hfails j g hg
    · rw [← Option.or_assoc]
      exact hnote

/-- A search, seen from places in the same order. -/
theorem map {z : Fitting (Option β)} (hx : Explores before fits fails x) (place : ι → κ)
    (g : α → β) (hplace : ∀ i j, before i j → before' (place i) (place j))
    (hz : z = x >>= fun found => pure (found.map g)) :
    Explores before' (fun k b => ∃ i a, fits i a ∧ k = place i ∧ b = g a)
      (fun k f => ∃ i, fails i f ∧ k = place i) z := by
  subst hz
  constructor
  · intro noted
    exact (hx.finds noted).map place g hplace
  · intro noted hnone
    obtain ⟨failure, hfirst, hnote⟩ := hx.notes noted (Option.map_eq_none_iff.mp hnone)
    refine ⟨failure, ?_, hnote⟩
    have hmapped := hfirst.map place id hplace
    rw [Option.map_id_fun, id] at hmapped
    exact hmapped.of_iff fun k f => by simp

end Explores

end TagShape

end TagTemplate
