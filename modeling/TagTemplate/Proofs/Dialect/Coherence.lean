import TagTemplate.Proofs.Dialect.Constants
import TagTemplate.Proofs.Operator.Registration

/-!
# Coherence of a dialect

A dialect is built from lists in which everything is put only if nothing before agrees with it, so
that what looks a name, a word or a shape up finds one answer. The rule by which names agree is
known only when the dialect is built; it is an equivalence, and for this reason it does not matter
that an item is compared with the items that were kept, and not with all that came before.
Operators are registered as the settings come. One that is refused leaves the table as it is, but
the dialect is not built, and what is reported is the first refusal.
-/

namespace TagTemplate

namespace Dialect

section distinct

variable {α : Type} {same : α → α → Bool} {item : α}

/-- The items with which no earlier one agrees, in order. -/
def firstOccurrences (same : α → α → Bool) (items : List α) : List α :=
  (items.zipIdx.filter fun (item, i) => !(items.take i).any (same · item)).map Prod.fst

/-- An item behind the others is a first occurrence if none of them agrees with it. -/
theorem firstOccurrences_concat (same : α → α → Bool) (items : List α) (item : α) :
    firstOccurrences same (items ++ [item]) =
      firstOccurrences same items ++ if items.any (same · item) then [] else [item] := by
  have hfront : ∀ p ∈ items.zipIdx,
      (!((items ++ [item]).take p.2).any (same · p.1)) = !(items.take p.2).any (same · p.1) := by
    intro p hp
    have hlt : p.2 < items.length := by
      have := List.snd_lt_of_mem_zipIdx hp
      omega
    rw [List.take_append_of_le_length (by omega)]
  unfold firstOccurrences
  rw [List.zipIdx_append, List.filter_append, List.map_append, List.filter_congr hfront]
  congr 1
  cases h : items.any (same · item) <;> simp [h]

/-- One more item is compared with what is kept of those before. -/
theorem distinct_concat (same : α → α → Bool) (items : List α) (item : α) :
    distinct same (items ++ [item]) = keep same (distinct same items) item := by
  rw [distinct_eq, distinct_eq, List.foldl_append]
  rfl

/-- What is kept is among the items. -/
theorem mem_of_mem_distinct {items : List α} (h : item ∈ distinct same items) : item ∈ items := by
  induction items using List.reverseRecOn with
  | nil => exact h
  | append_singleton items last ih =>
    rw [distinct_concat, keep] at h
    split at h
    · exact List.mem_append_left _ (ih h)
    · rcases List.mem_append.mp h with hfront | hlast
      · exact List.mem_append_left _ (ih hfront)
      · exact List.mem_append_right _ hlast

/-- No two items that are kept agree. -/
theorem pairwise_distinct (same : α → α → Bool) (items : List α) :
    (distinct same items).Pairwise fun k k' => same k k' = false := by
  induction items using List.reverseRecOn with
  | nil => exact List.Pairwise.nil
  | append_singleton items last ih =>
    rw [distinct_concat, keep]
    split
    · exact ih
    · next hnone =>
      refine List.pairwise_append.mpr ⟨ih, List.pairwise_singleton _ _, ?_⟩
      intro k hk last' hlast'
      rw [List.mem_singleton.mp hlast']
      exact Bool.eq_false_iff.mpr fun hsame => hnone (List.any_eq_true.mpr ⟨k, hk, hsame⟩)

/-- An item agrees with something that is kept exactly if it agrees with an item. -/
theorem any_distinct (hrefl : ∀ a, same a a = true)
    (htrans : ∀ {a b c}, same a b = true → same b c = true → same a c = true)
    (items : List α) (item : α) :
    (distinct same items).any (same · item) = items.any (same · item) := by
  rw [Bool.eq_iff_iff, List.any_eq_true, List.any_eq_true]
  constructor
  · rintro ⟨k, hk, hsame⟩
    exact ⟨k, mem_of_mem_distinct hk, hsame⟩
  · rintro ⟨first, hfirst, hsame⟩
    obtain ⟨k, hk, hagree⟩ := exists_same_of_distinct (hrefl first) hfirst
    exact ⟨k, hk, htrans hagree hsame⟩

/-- What is kept are the first occurrences, if agreement is reflexive and transitive. -/
theorem distinct_eq_firstOccurrences (hrefl : ∀ a, same a a = true)
    (htrans : ∀ {a b c}, same a b = true → same b c = true → same a c = true)
    (items : List α) : distinct same items = firstOccurrences same items := by
  induction items using List.reverseRecOn with
  | nil => rfl
  | append_singleton items last ih =>
    rw [distinct_concat, firstOccurrences_concat, keep, any_distinct hrefl htrans, ih]
    split
    · exact (List.append_nil _).symm
    · rfl

/-- Of items of which no two agree at most one agrees with another item. -/
theorem countP_eq_one (same : α → α → Bool) (hsymm : ∀ {a b}, same a b = true → same b a = true)
    (htrans : ∀ {a b c}, same a b = true → same b c = true → same a c = true)
    {kept : List α} (hkept : kept.Pairwise fun k k' => same k k' = false)
    (hex : ∃ k ∈ kept, same k item = true) : kept.countP (same · item) = 1 := by
  induction hkept with
  | nil =>
    obtain ⟨k, hk, -⟩ := hex
    exact absurd hk List.not_mem_nil
  | @cons k kept hapart _ ih =>
    by_cases hsame : same k item = true
    · have hnone : kept.countP (same · item) = 0 := by
        refine List.countP_eq_zero.mpr fun k' hk' hsame' => ?_
        have hagree := htrans hsame (hsymm hsame')
        rw [hapart k' hk'] at hagree
        cases hagree
      rw [List.countP_cons, hnone, if_pos hsame]
    · rw [List.countP_cons, if_neg hsame]
      refine ih ?_
      obtain ⟨k', hk', hsame'⟩ := hex
      rcases List.mem_cons.mp hk' with rfl | hrest
      · exact absurd hsame' hsame
      · exact ⟨k', hrest, hsame'⟩

end distinct

/-- Directives are registered under names of which no two agree, and each of them with shapes. -/
theorem apart_of_registerDirectives {nameCase : NameCase} {directives : List Directive}
    {registered all : List RegisteredDirective}
    (h : registerDirectives nameCase registered directives = .ok all)
    (hapart : registered.Pairwise fun r r' =>
      nameCase.same r.directive.name r'.directive.name = false)
    (hshapes : ∀ r ∈ registered, r.shapes ≠ []) :
    (all.Pairwise fun r r' => nameCase.same r.directive.name r'.directive.name = false) ∧
      ∀ r ∈ all, r.shapes ≠ [] := by
  induction directives generalizing registered with
  | nil =>
    cases h
    exact ⟨hapart, hshapes⟩
  | cons directive directives ih =>
    unfold registerDirectives at h
    split at h
    · cases h
    · next hnew =>
      split at h
      · cases h
      · cases h
      · next shapes hne hparsed =>
        refine ih h (List.pairwise_append.mpr ⟨hapart, List.pairwise_singleton _ _, ?_⟩) ?_
        · intro r hr last hlast
          rw [List.mem_singleton.mp hlast]
          exact Bool.eq_false_iff.mpr fun hsame => hnew (List.any_eq_true.mpr ⟨r, hr, hsame⟩)
        · intro r hr
          rcases List.mem_append.mp hr with hr | hr
          · exact hshapes r hr
          · rw [List.mem_singleton.mp hr]
            exact hne

/-- Constants with names of their own: they are identifiers, agree with no keyword and no two of
them agree. -/
structure OwnNames (nameCase : NameCase) (keywords : List String) (filed : Record Value) :
    Prop where
  /-- The names are identifiers. -/
  isIdentifier : ∀ field ∈ filed, Name.isIdentifier field.1 = true
  /-- The names are no keywords. -/
  not_keyword : ∀ field ∈ filed, keywords.any (nameCase.same · field.1) = false
  /-- No two names agree. -/
  pairwise : filed.Pairwise fun field field' => nameCase.same field.1 field'.1 = false

/-- Filing a constant adds none but this one. -/
theorem mem_of_mem_placeConstant {nameCase : NameCase} {name : String} {value : Value}
    {filed : Record Value} {field : String × Value}
    (h : field ∈ placeConstant nameCase name value filed) :
    field = (name, value) ∨ field ∈ filed := by
  induction filed with
  | nil => exact .inl (List.mem_singleton.mp h)
  | cons first filed ih =>
    unfold placeConstant at h
    split at h
    · rcases List.mem_cons.mp h with hnew | hrest
      · exact .inl hnew
      · exact .inr (List.mem_cons_of_mem _ hrest)
    · rcases List.mem_cons.mp h with hfirst | hrest
      · exact .inr (hfirst ▸ List.mem_cons_self)
      · exact (ih hrest).imp_right (List.mem_cons_of_mem _)

/-- No two names agree after a constant is filed, which takes the place of one that agrees. -/
theorem pairwise_placeConstant {nameCase : NameCase} (name : String) (value : Value)
    {filed : Record Value}
    (h : filed.Pairwise fun field field' => nameCase.same field.1 field'.1 = false) :
    (placeConstant nameCase name value filed).Pairwise fun field field' =>
      nameCase.same field.1 field'.1 = false := by
  induction h with
  | nil => exact List.pairwise_singleton _ _
  | @cons first filed hapart hrest ih =>
    unfold placeConstant
    split
    · next hplace =>
      refine List.Pairwise.cons (fun field hm => ?_) hrest
      -- What agrees with the new name would agree with the one whose place it takes.
      refine Bool.eq_false_iff.mpr fun hsame => ?_
      have hagree := NameCase.same_trans hplace hsame
      rw [hapart field hm] at hagree
      cases hagree
    · next hplace =>
      refine List.Pairwise.cons (fun field hm => ?_) ih
      rcases mem_of_mem_placeConstant hm with rfl | hm
      · exact Bool.eq_false_iff.mpr hplace
      · exact hapart field hm

/-- Filing constants keeps their names their own. -/
theorem OwnNames.placeConstants {nameCase : NameCase} {keywords : List String}
    {filed more all : Record Value} (hown : OwnNames nameCase keywords filed)
    (h : placeConstants nameCase keywords filed more = .ok all) :
    OwnNames nameCase keywords all := by
  induction more generalizing filed with
  | nil =>
    cases h
    exact hown
  | cons field more ih =>
    unfold Dialect.placeConstants at h
    split at h
    · cases h
    · next hidentifier =>
      split at h
      · cases h
      · next hkeyword =>
        have hidentifier' : Name.isIdentifier field.1 = true := by simpa using hidentifier
        refine ih ⟨?_, ?_, pairwise_placeConstant _ _ hown.pairwise⟩ h
        · intro field' hm
          rcases mem_of_mem_placeConstant hm with rfl | hm
          · exact hidentifier'
          · exact hown.isIdentifier field' hm
        · intro field' hm
          rcases mem_of_mem_placeConstant hm with rfl | hm
          · exact Bool.eq_false_iff.mpr hkeyword
          · exact hown.not_keyword field' hm

/-- The operators that a setting registers. -/
def Setting.operators : Setting → List Operator
  | .operator op => [op]
  | .standardOperators => OperatorTable.standardOperators
  | _ => []

/-- The operators that settings register, in order. -/
def registrations (settings : List Setting) : List Operator := settings.flatMap Setting.operators

end Dialect

namespace OperatorTable

/-- Registers operators one after the other, up to the first that is refused. -/
def registerAll (t : OperatorTable) (ops : List Operator) : Except SymbolClash OperatorTable :=
  ops.foldlM register t

theorem registerAll_append (t : OperatorTable) (ops more : List Operator) :
    t.registerAll (ops ++ more) = t.registerAll ops >>= (·.registerAll more) :=
  List.foldlM_append

end OperatorTable

namespace Dialect

namespace Draft

/-- What has come of the registration of operators: the table, or the first clash. -/
def registration (draft : Draft) : Except SymbolClash OperatorTable :=
  match draft.clash with
  | none => .ok draft.operators
  | some clash => .error clash

/-- A draft registers an operator unless there was a clash before. -/
theorem registration_register (draft : Draft) (op : Operator) :
    (draft.register op).registration = draft.registration >>= (·.register op) := by
  unfold register
  cases hclash : draft.clash with
  | none =>
    have hbefore : draft.registration = .ok draft.operators := by rw [registration, hclash]
    rw [hbefore]
    cases hregister : draft.operators.register op with
    | ok t => simp [registration, bind, Except.bind, hregister]
    | error clash => simp [registration, bind, Except.bind, hregister]
  | some clash =>
    have hbefore : draft.registration = .error clash := by rw [registration, hclash]
    rw [hbefore]
    split <;> simp [registration, bind, Except.bind]

/-- A draft registers operators unless there was a clash before. -/
theorem registration_foldl_register (draft : Draft) (ops : List Operator) :
    (ops.foldl register draft).registration = draft.registration >>= (·.registerAll ops) := by
  induction ops generalizing draft with
  | nil => exact (bind_pure draft.registration).symm
  | cons op ops ih =>
    rw [List.foldl_cons, ih, registration_register, bind_assoc]
    rfl

/-- A setting registers its operators. -/
theorem registration_change (draft : Draft) (setting : Setting) :
    (draft.change setting).registration =
      draft.registration >>= (·.registerAll setting.operators) := by
  cases setting with
  | operator op => exact registration_foldl_register draft [op]
  | standardOperators => exact registration_foldl_register draft _
  | _ => exact (bind_pure draft.registration).symm

/-- In the draft of settings the operators are registered in the order of the settings. -/
theorem registration_ofSettings (name : String) (settings : List Setting) :
    (Draft.ofSettings name settings).registration =
      OperatorTable.empty.registerAll (registrations settings) := by
  have hfold (draft : Draft) : (settings.foldl change draft).registration =
      draft.registration >>= (·.registerAll (registrations settings)) := by
    induction settings generalizing draft with
    | nil => exact (bind_pure draft.registration).symm
    | cons setting settings ih =>
      have happend : registrations (setting :: settings) =
          setting.operators ++ registrations settings := rfl
      rw [List.foldl_cons, ih, registration_change, bind_assoc, happend]
      simp only [OperatorTable.registerAll_append]
  exact hfold (new name)

end Draft

/-- A dialect has the operators and keywords of its draft. -/
theorem registration_of_ofDraft {draft : Draft} {d : Dialect} (h : ofDraft draft = .ok d) :
    draft.registration = .ok d.operators ∧
      d.keywords = distinct d.nameCase.same
        ((d.directives.flatMap RegisteredDirective.shapes).flatMap TagShape.keywords) := by
  unfold ofDraft at h
  cases hc : draft.clash with
  | some clash =>
    rw [hc] at h
    cases h
  | none =>
    rw [hc] at h
    obtain ⟨⟨⟩, -, h⟩ := bind_eq_ok_iff.mp h
    obtain ⟨directives, -, h⟩ := bind_eq_ok_iff.mp h
    obtain ⟨constants, -, h⟩ := bind_eq_ok_iff.mp h
    cases h
    exact ⟨by rw [Draft.registration, hc], rfl⟩

/-- No dialect comes of a draft in which operators clash; what is reported is the first clash. -/
theorem ofDraft_of_clash {draft : Draft} {clash : SymbolClash}
    (h : draft.registration = .error clash) :
    ofDraft draft = .error (.duplicateOperator clash) := by
  unfold Draft.registration at h
  unfold ofDraft
  cases hc : draft.clash with
  | none =>
    rw [hc] at h
    cases h
  | some first =>
    rw [hc] at h
    cases h
    rfl

/-- A dialect in which nothing that is looked up has two answers. -/
structure Coherent (d : Dialect) : Prop where
  /-- No two directives have names that agree. -/
  directives_apart : d.directives.Pairwise fun r r' =>
    d.nameCase.same r.directive.name r'.directive.name = false
  /-- Every directive has a tag. -/
  exists_shape : ∀ r ∈ d.directives, r.shapes ≠ []
  /-- No two shapes of the dialect agree. -/
  shapes_apart : d.shapes.Pairwise fun shape shape' => shape.same d.nameCase shape' = false
  /-- The shapes are those of the directives, in the order in which they first occur. -/
  shapes_eq : d.shapes = firstOccurrences (TagShape.same d.nameCase)
    (d.directives.flatMap RegisteredDirective.shapes)
  /-- A shape of a directive agrees with exactly one shape of the dialect. -/
  countP_shapes : ∀ r ∈ d.directives, ∀ shape ∈ r.shapes,
    d.shapes.countP (TagShape.same d.nameCase · shape) = 1
  /-- The keywords are the words that agree with a keyword of a directive's tag. -/
  isKeyword_iff : ∀ word, d.isKeyword word = true ↔
    ∃ r ∈ d.directives, ∃ shape ∈ r.shapes, ∃ keyword,
      .keyword keyword ∈ shape.slots ∧ d.nameCase.same keyword word = true
  /-- The names of the constants are identifiers. -/
  constants_isIdentifier : ∀ field ∈ d.constants, Name.isIdentifier field.1 = true
  /-- No constant is a keyword. -/
  constants_not_keyword : ∀ field ∈ d.constants, d.isKeyword field.1 = false
  /-- No two constants have names that agree. -/
  constants_apart : d.constants.Pairwise fun field field' =>
    d.nameCase.same field.1 field'.1 = false

/-- The keywords of a shape are the words of its slots that are keywords. -/
theorem mem_keywords_iff {shape : TagShape} {keyword : String} :
    keyword ∈ shape.keywords ↔ .keyword keyword ∈ shape.slots := by
  unfold TagShape.keywords
  rw [List.mem_filterMap]
  constructor
  · rintro ⟨slot, hslot, hword⟩
    cases slot <;> cases hword
    exact hslot
  · intro hslot
    exact ⟨.keyword keyword, hslot, rfl⟩

/-- Every dialect that comes of a draft is coherent. -/
theorem coherent_of_ofDraft {draft : Draft} {d : Dialect} (h : ofDraft draft = .ok d) :
    d.Coherent := by
  obtain ⟨-, hregistered, hshapes, hcase, hconstants⟩ := steps_of_ofDraft h
  obtain ⟨-, hkeywords⟩ := registration_of_ofDraft h
  rw [← hcase] at hregistered hconstants
  have hapart := apart_of_registerDirectives hregistered List.Pairwise.nil
    fun r hr => absurd hr List.not_mem_nil
  have hown : OwnNames d.nameCase d.keywords d.constants := by
    refine OwnNames.placeConstants ⟨?_, ?_, List.Pairwise.nil⟩ hconstants
    · exact fun field hm => absurd hm List.not_mem_nil
    · exact fun field hm => absurd hm List.not_mem_nil
  have hshapes_apart := pairwise_distinct (TagShape.same d.nameCase)
    (d.directives.flatMap RegisteredDirective.shapes)
  rw [← hshapes] at hshapes_apart
  refine
    { directives_apart := hapart.1
      exists_shape := hapart.2
      shapes_apart := hshapes_apart
      shapes_eq := ?_
      countP_shapes := ?_
      isKeyword_iff := ?_
      constants_isIdentifier := hown.isIdentifier
      constants_not_keyword := hown.not_keyword
      constants_apart := hown.pairwise }
  · rw [hshapes]
    exact distinct_eq_firstOccurrences (TagShape.same_refl d.nameCase) TagShape.same_trans _
  · intro r hr shape hm
    refine countP_eq_one (TagShape.same d.nameCase) TagShape.same_symm TagShape.same_trans
      hshapes_apart ?_
    rw [hshapes]
    exact exists_same_of_distinct (shape.same_refl d.nameCase) (List.mem_flatMap_of_mem hr hm)
  · intro word
    unfold isKeyword
    rw [hkeywords, any_distinct d.nameCase.same_refl NameCase.same_trans]
    simp only [List.any_eq_true, List.mem_flatMap, mem_keywords_iff]
    constructor
    · rintro ⟨keyword, ⟨shape, ⟨r, hr, hm⟩, hslot⟩, hsame⟩
      exact ⟨r, hr, shape, hm, keyword, hslot, hsame⟩
    · rintro ⟨r, hr, shape, hm, keyword, hslot, hsame⟩
      exact ⟨keyword, ⟨shape, ⟨r, hr, hm⟩, hslot⟩, hsame⟩

/-- Whatever the settings: if a dialect comes of them, it is coherent and has all operators that
they register, none of which was refused. If one is refused, no dialect comes of them, and the
first refusal is reported. -/
theorem coherent_of_ofSettings (name : String) (settings : List Setting) :
    (∀ d, ofSettings name settings = .ok d → d.Coherent ∧
      OperatorTable.empty.registerAll (registrations settings) = .ok d.operators) ∧
    ∀ clash, OperatorTable.empty.registerAll (registrations settings) = .error clash →
      ofSettings name settings = .error (.duplicateOperator clash) := by
  refine ⟨fun d h => ⟨coherent_of_ofDraft h, ?_⟩, fun clash hclash => ?_⟩
  · rw [← Draft.registration_ofSettings name settings]
    exact (registration_of_ofDraft h).1
  · rw [← Draft.registration_ofSettings name settings] at hclash
    exact ofDraft_of_clash hclash

set_option maxRecDepth 1000 in
/-- A dialect whose case begins to count after its constants were defined, and settings that give a
symbol two readings. -/
theorem coherent_of_ofSettings_respelled :
    (∃ d, ofSettings "respelled" [.constant "Size" (.text "10"), .constant "SIZE" (.text "12"),
        .nameCase .sensitive, .standardOperators, .standardDirectives] = .ok d ∧ d.Coherent) ∧
      ofSettings "clashing" [.standardOperators, .operator (.prefixOp "-" 3 .negate),
        .operator (.infixOp "," 9 .left .add)] =
        .error (.duplicateOperator ⟨"-", .beforeOperand⟩) := by
  have hd : ∃ d, ofSettings "respelled" [.constant "Size" (.text "10"),
      .constant "SIZE" (.text "12"), .nameCase .sensitive, .standardOperators,
      .standardDirectives] = .ok d :=
    ⟨_, rfl⟩
  obtain ⟨d, hd⟩ := hd
  refine ⟨⟨d, hd, ((coherent_of_ofSettings _ _).1 d hd).1⟩, ?_⟩
  refine (coherent_of_ofSettings _ _).2 _ ?_
  decide

end Dialect
end TagTemplate
