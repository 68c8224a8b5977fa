import TagTemplate.Name

/-!
# Lower case, letter by letter

Lower case sends every character to characters that it leaves as they are. The table is a list
of runs, so this is checked run by run: no entry covers a code point to which a run moves one of
its own, because the entries lie elsewhere or hold only code points of the other parity. It
follows that the folded form of a text is settled. The lower case of a text is its folded form
unless a capital sigma ends a word.
-/

namespace TagTemplate.Text

/-- Whether the table leaves every `step`-th code point from `lo` to `hi` as it is: each entry
ends before them, begins after them, or holds every second one and passes between them. -/
def CaseRuns.spares (lo hi step : Nat) : CaseRuns → Bool
  | [] => true
  | (first, last, step', _) :: rest =>
    hi.blt first ||
      ((last.blt lo || decide ((step = 2 ∨ lo = hi) ∧ step' = 2 ∧ (lo - first) % 2 = 1)) &&
        CaseRuns.spares lo hi step rest)

/-- A code point of a progression that the table spares stays as it is. -/
theorem CaseRuns.apply_of_spares {runs : CaseRuns} {lo hi step n : Nat}
    (h : runs.spares lo hi step = true) (hlo : lo ≤ n) (hhi : n ≤ hi)
    (hstep : (n - lo) % step = 0) : runs.apply n = n := by
  induction runs with
  | nil => rfl
  | cons run rest ih =>
    obtain ⟨first, last, step', shift⟩ := run
    simp only [spares, Bool.or_eq_true, Bool.and_eq_true, Nat.blt_eq, decide_eq_true_eq] at h
    rw [apply]
    split
    · rfl
    · next hfirst =>
      obtain habove | ⟨hbeside, hrest⟩ := h
      · omega
      · have hnot : ¬ (n ≤ last ∧ (n - first) % step' = 0) := by
          rintro ⟨hlast, hmod⟩
          obtain hbelow | ⟨hstride, rfl, hparity⟩ := hbeside
          · omega
          · obtain rfl | rfl := hstride <;> omega
        rw [if_neg hnot]
        exact ih hrest

/-- A code point stays as it is, or an entry of the table covers it and moves it. -/
theorem CaseRuns.apply_cases (runs : CaseRuns) (n : Nat) :
    runs.apply n = n ∨ ∃ first last step shift, (first, last, step, shift) ∈ runs ∧
      first ≤ n ∧ n ≤ last ∧ (n - first) % step = 0 ∧ runs.apply n = (n + shift).toNat := by
  induction runs with
  | nil => exact .inl rfl
  | cons run rest ih =>
    obtain ⟨first, last, step, shift⟩ := run
    rw [apply]
    split
    · exact .inl rfl
    · next hfirst =>
      split
      · next hcovered =>
        exact .inr ⟨first, last, step, shift, List.mem_cons_self, by omega, hcovered.1,
          hcovered.2, rfl⟩
      · obtain h | ⟨f, l, st, sh, hmem, h⟩ := ih
        · exact .inl h
        · exact .inr ⟨f, l, st, sh, List.mem_cons_of_mem _ hmem, h⟩

/-- The table of lower case spares the images of its own entries, none of which expands. -/
theorem lowerRuns_spares :
    (lowerRuns.all fun (first, last, step, shift) =>
      decide (0 ≤ first + shift) &&
      ((last + shift).toNat.blt 0x130 || Nat.blt 0x130 (first + shift).toNat) &&
      lowerRuns.spares (first + shift).toNat (last + shift).toNat step) = true := by
  decide +kernel

/-- Only the dotted capital I has a lower case of several characters. -/
theorem lowerExpansions_lookup {n : Nat} (h : n ≠ 0x130) : lowerExpansions.lookup n = none := by
  simp [lowerExpansions, List.lookup_cons, beq_false_of_ne h]

/-- Moving a code point twice is moving it once, and the image does not expand. -/
theorem lowerRuns_apply_apply {n : Nat} (h : n ≠ 0x130) :
    lowerRuns.apply n ≠ 0x130 ∧ lowerRuns.apply (lowerRuns.apply n) = lowerRuns.apply n := by
  obtain hstays | ⟨first, last, step, shift, hmem, hfirst, hlast, hstep, happly⟩ :=
    lowerRuns.apply_cases n
  · rw [hstays]
    exact ⟨h, hstays⟩
  · have hrun := List.all_eq_true.mp lowerRuns_spares _ hmem
    simp only [Bool.and_eq_true, Bool.or_eq_true, decide_eq_true_eq, Nat.blt_eq] at hrun
    obtain ⟨⟨hpositive, haside⟩, hspares⟩ := hrun
    have himage : ((n : Int) + shift).toNat = (first + shift).toNat + (n - first) := by omega
    rw [happly]
    refine ⟨by omega, CaseRuns.apply_of_spares hspares (by omega) (by omega) ?_⟩
    rwa [himage, Nat.add_sub_cancel_left]

/-- A character that does not expand and that the runs leave where it is is its own lower case. -/
theorem lowerChar_of_apply_eq {c : Char} (h : c.toNat ≠ 0x130)
    (hstays : lowerRuns.apply c.toNat = c.toNat) : lowerChar c = [c] := by
  simp only [lowerChar, caseMap, lowerExpansions_lookup h, hstays, Char.ofNat_toNat]

/-- The lower case of a character is settled: it is its own lower case. -/
theorem lowerChar_of_mem {c x : Char} (h : x ∈ lowerChar c) : lowerChar x = [x] := by
  by_cases hdotted : c.toNat = 0x130
  · have hx : x = Char.ofNat 0x69 ∨ x = Char.ofNat 0x307 := by
      simpa [lowerChar, caseMap, lowerExpansions, List.lookup_cons, hdotted] using h
    obtain rfl | rfl := hx
    · exact lowerChar_of_apply_eq (by decide) (by decide)
    · exact lowerChar_of_apply_eq (by decide) (by decide)
  · simp only [lowerChar, caseMap, lowerExpansions_lookup hdotted, List.mem_singleton] at h
    subst h
    obtain ⟨hplain, hsettled⟩ := lowerRuns_apply_apply hdotted
    generalize lowerRuns.apply c.toNat = m at hplain hsettled
    by_cases hvalid : m.isValidChar
    · have htoNat : (Char.ofNat m).toNat = m := by rw [Char.ofNat, dif_pos hvalid]; rfl
      exact lowerChar_of_apply_eq (by rwa [htoNat]) (by rwa [htoNat])
    · have hnull : Char.ofNat m = '\x00' := by rw [Char.ofNat, dif_neg hvalid]; rfl
      rw [hnull]
      exact lowerChar_of_apply_eq (by decide) (by decide)

set_option maxRecDepth 1000 in
theorem isUppercase_sigma : isUppercase 'Σ' = true := by decide

/-- On its own the capital sigma becomes the small one that does not end a word. -/
theorem lowerChar_sigma : lowerChar 'Σ' = ['σ'] := by decide

/-- A capital sigma of the text ends a word: the nearest letter before it has a case, the one
after it has none. -/
def SigmaEndsWord (cs : List Char) : Prop :=
  ∃ before after, cs = before ++ 'Σ' :: after ∧
    nearestIsCased before.reverse = true ∧ nearestIsCased after = false

/-- After `before`, lower case departs from the characters' own lower cases at a capital sigma
that ends a word, and nowhere else. -/
theorem lowerAfter_eq_iff (before cs : List Char) :
    lowerAfter before cs = cs.flatMap lowerChar ↔
      ∀ earlier later, cs = earlier ++ 'Σ' :: later →
        nearestIsCased (earlier.reverse ++ before) = true → nearestIsCased later = true := by
  induction cs generalizing before with
  | nil => simp [lowerAfter]
  | cons c rest ih =>
    have hsplits : (∀ earlier later, c :: rest = earlier ++ 'Σ' :: later →
          nearestIsCased (earlier.reverse ++ before) = true → nearestIsCased later = true) ↔
        (c = 'Σ' → nearestIsCased before = true → nearestIsCased rest = true) ∧
        ∀ earlier later, rest = earlier ++ 'Σ' :: later →
          nearestIsCased (earlier.reverse ++ c :: before) = true →
          nearestIsCased later = true := by
      constructor
      · intro h
        refine ⟨fun hc => h [] rest (by rw [hc]; rfl), fun earlier later hrest hcased => ?_⟩
        exact h (c :: earlier) later (by rw [hrest]; rfl) (by simpa using hcased)
      · rintro ⟨hhead, htail⟩ earlier later hsplit hcased
        cases earlier with
        | nil =>
          obtain ⟨rfl, rfl⟩ := List.cons.inj hsplit
          exact hhead rfl (by simpa using hcased)
        | cons e earlier =>
          obtain ⟨rfl, rfl⟩ := List.cons.inj hsplit
          exact htail earlier later rfl (by simpa using hcased)
    rw [hsplits, ← ih (c :: before), lowerAfter, List.flatMap_cons]
    by_cases hc : c = 'Σ'
    · subst hc
      by_cases hbefore : nearestIsCased before = true <;>
        by_cases hrest : nearestIsCased rest = true <;>
          simp [lowerChar_sigma, hbefore, hrest]
    · simp [hc]

/-- The lower case of a text is its folded form unless a capital sigma ends a word. -/
theorem lowercase_eq_folded_iff (s : String) :
    (lowercase s).toList = folded s ↔ ¬ SigmaEndsWord s.toList := by
  rw [lowercase, String.toList_ofList, folded, lowerAfter_eq_iff]
  simp [SigmaEndsWord]

/-- Every character of a folded form is its own lower case. -/
theorem lowerChar_of_mem_folded {s : String} {x : Char} (h : x ∈ folded s) :
    lowerChar x = [x] := by
  obtain ⟨c, -, hx⟩ := List.mem_flatMap.mp h
  exact lowerChar_of_mem hx

/-- A text is its own folded form exactly if all its characters are their own lower cases. -/
theorem folded_eq_self_iff (s : String) :
    folded s = s.toList ↔ ∀ c ∈ s.toList, lowerChar c = [c] := by
  constructor
  · intro h c hc
    exact lowerChar_of_mem_folded (h.symm ▸ hc)
  · intro h
    rw [folded, List.flatMap_def, List.map_congr_left h, ← List.flatMap_def,
      List.flatMap_singleton']

end TagTemplate.Text
