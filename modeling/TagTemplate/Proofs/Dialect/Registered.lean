import TagTemplate.Dialect
import TagTemplate.Proofs.Result

/-!
# Registered directives

A dialect exists only if every step of its construction succeeds. From its construction follow
the order of its directives, which is that of the draft, and the shapes of their tags, which are
those that the markup of the directive describes; and its delimiters belong to nothing else.
-/

namespace TagTemplate

/-- A directive whose shapes are those that its markup describes. -/
def RegisteredDirective.Declared (r : RegisteredDirective) : Prop :=
  Dialect.parseShapes r.directive.tags = .ok r.shapes

namespace Dialect

/-- Directives are registered in order, each with the shapes that its markup describes. -/
theorem registered_of_registerDirectives {nameCase : NameCase} {directives : List Directive}
    {registered all : List RegisteredDirective}
    (h : registerDirectives nameCase registered directives = .ok all) :
    ∃ more, all = registered ++ more ∧ more.map RegisteredDirective.directive = directives ∧
      ∀ r ∈ more, r.Declared := by
  induction directives generalizing registered with
  | nil =>
    cases h
    exact ⟨[], (List.append_nil _).symm, rfl, fun _ hr => absurd hr List.not_mem_nil⟩
  | cons directive directives ih =>
    unfold registerDirectives at h
    split at h
    · cases h
    · split at h
      · cases h
      · cases h
      · next shapes hne hshapes =>
        obtain ⟨more, hall, hmore, hdeclared⟩ := ih h
        refine ⟨⟨directive, shapes⟩ :: more, ?_, ?_, ?_⟩
        · rw [hall, List.append_assoc, List.singleton_append]
        · rw [List.map_cons, hmore]
        · intro r hr
          rcases List.mem_cons.mp hr with rfl | hr
          · exact hshapes
          · exact hdeclared r hr

/-- A dialect comes of the steps of its construction. -/
theorem steps_of_ofDraft {draft : Draft} {d : Dialect} (h : ofDraft draft = .ok d) :
    checkDelimiters d.delimiters = .ok () ∧
      registerDirectives draft.nameCase [] draft.directives = .ok d.directives ∧
      d.shapes = distinct (TagShape.same d.nameCase)
        (d.directives.flatMap RegisteredDirective.shapes) ∧
      d.nameCase = draft.nameCase ∧
      placeConstants draft.nameCase d.keywords [] draft.constants = .ok d.constants := by
  unfold ofDraft at h
  cases hc : draft.clash with
  | some clash =>
    rw [hc] at h
    cases h
  | none =>
    rw [hc] at h
    obtain ⟨⟨⟩, hdelimiters, h⟩ := bind_eq_ok_iff.mp h
    obtain ⟨directives, hd, h⟩ := bind_eq_ok_iff.mp h
    obtain ⟨constants, hconstants, h⟩ := bind_eq_ok_iff.mp h
    cases h
    exact ⟨hdelimiters, hd, rfl, rfl, hconstants⟩

/-- The directives of a dialect are registered from those of its draft. -/
theorem registerDirectives_of_ofDraft {draft : Draft} {d : Dialect} (h : ofDraft draft = .ok d) :
    registerDirectives draft.nameCase [] draft.directives = .ok d.directives :=
  (steps_of_ofDraft h).2.1

/-- Delimiters that were checked are two characters that belong to nothing else. -/
theorem checkDelimiters_eq_ok {delimiters : Delimiters} (h : checkDelimiters delimiters = .ok ()) :
    delimiters.opening ≠ delimiters.closing ∧ isUnusable delimiters.opening = false ∧
      isUnusable delimiters.closing = false := by
  unfold checkDelimiters at h
  split at h
  · cases h
  · next hne =>
    split at h
    · cases h
    · next hu =>
      rw [Bool.not_eq_true, Bool.or_eq_false_iff] at hu
      exact ⟨hne, hu⟩

/-- The delimiters of a dialect are two characters that belong to nothing else. -/
theorem delimiters_of_ofDraft {draft : Draft} {d : Dialect} (h : ofDraft draft = .ok d) :
    d.delimiters.opening ≠ d.delimiters.closing ∧ isUnusable d.delimiters.opening = false ∧
      isUnusable d.delimiters.closing = false :=
  checkDelimiters_eq_ok (steps_of_ofDraft h).1

/-- The directives of a dialect are those of its draft, in order. -/
theorem directives_of_ofDraft {draft : Draft} {d : Dialect} (h : ofDraft draft = .ok d) :
    d.directives.map RegisteredDirective.directive = draft.directives := by
  obtain ⟨more, hall, hmore, -⟩ :=
    registered_of_registerDirectives (registerDirectives_of_ofDraft h)
  rw [hall, List.nil_append, hmore]

/-- Every directive of a dialect has the shapes that its markup describes. -/
theorem declared_of_ofDraft {draft : Draft} {d : Dialect} (h : ofDraft draft = .ok d) :
    ∀ r ∈ d.directives, r.Declared := by
  obtain ⟨more, hall, -, hdeclared⟩ :=
    registered_of_registerDirectives (registerDirectives_of_ofDraft h)
  rwa [hall, List.nil_append]

section distinct

variable {α : Type} {same : α → α → Bool} {item : α}

/-- The items that are kept after one more. -/
def keep (same : α → α → Bool) (kept : List α) (item : α) : List α :=
  if kept.any fun k => same k item then kept else kept ++ [item]

theorem distinct_eq (same : α → α → Bool) (items : List α) :
    distinct same items = items.foldl (keep same) [] := rfl

/-- What is kept stays. -/
theorem subset_keep (kept : List α) (item : α) : kept ⊆ keep same kept item := by
  unfold keep
  split
  · exact List.Subset.refl kept
  · exact List.subset_append_left kept [item]

theorem subset_foldl_keep (items kept : List α) : kept ⊆ items.foldl (keep same) kept := by
  induction items generalizing kept with
  | nil => exact List.Subset.refl kept
  | cons first items ih => exact List.Subset.trans (subset_keep kept first) (ih _)

/-- After an item one that agrees with it is kept. -/
theorem exists_same_of_keep (hs : same item item = true) (kept : List α) :
    ∃ k ∈ keep same kept item, same k item = true := by
  unfold keep
  split
  · next hany => exact List.any_eq_true.mp hany
  · exact ⟨item, List.mem_append_right kept List.mem_cons_self, hs⟩

/-- For each item one that agrees with it is kept. -/
theorem exists_same_of_distinct {items : List α} (hs : same item item = true) (h : item ∈ items) :
    ∃ k ∈ distinct same items, same k item = true := by
  rw [distinct_eq]
  generalize ([] : List α) = kept
  induction items generalizing kept with
  | nil => exact absurd h List.not_mem_nil
  | cons first items ih =>
    rcases List.mem_cons.mp h with rfl | hm
    · obtain ⟨k, hk, hsame⟩ := exists_same_of_keep hs kept
      exact ⟨k, subset_foldl_keep items _ hk, hsame⟩
    · exact ih hm _

end distinct

set_option maxRecDepth 1000 in
/-- There is a standard dialect, in which the case of a name does not count. -/
theorem exists_standard_insensitive :
    ∃ d, Dialect.standard = .ok d ∧ d.nameCase = .insensitive :=
  ⟨_, rfl, rfl⟩

end Dialect

end TagTemplate
