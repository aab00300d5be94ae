import ItemQuery.Proofs.Text.Lower

/-!
Texts that differ in case. What a character is lowered to stays, so that lowering a second time
changes nothing (`lower_lower`). Two letters that ASCII tells apart by case alone are lowered to one,
and a `Σ` beside them does not tell them apart either: both are cased and neither is looked past
(`lower_map_toLower`).
-/

namespace ItemQuery.Text

/-! ## Small letters stay -/

/-- Whether one run leaves alone what another puts out: it lies apart, or between its steps. -/
def CaseRun.spares (r r' : CaseRun) : Bool :=
  apart r'.target (r'.target + (r'.last - r'.first)) (r.first, r.last) ||
    (r.step == 2 && (r'.step == 2 || r'.first == r'.last) && (r'.target + r.first) % 2 == 1)

private theorem lowerRuns_spare :
    (lowerRuns.all fun r' => lowerRuns.all fun r => r.spares r') = true := by
  decide +kernel

private theorem lowerRuns_apart_capitalDottedI : (lowerRuns.all fun r =>
    apart r.target (r.target + (r.last - r.first)) (0x130, 0x130)) = true := by
  decide +kernel

theorem targetOf?_of_targetOf? {n m : Nat} (h : targetOf? n lowerRuns = some m) :
    targetOf? m lowerRuns = none := by
  obtain ⟨r', hr', hfirst', hlast', hstep', hm⟩ := targetOf?_eq_some h
  cases hk : targetOf? m lowerRuns with
  | none => rfl
  | some k =>
    obtain ⟨r, hr, hfirst, hlast, hstep, -⟩ := targetOf?_eq_some hk
    have hspare := List.all_eq_true.mp (List.all_eq_true.mp lowerRuns_spare r' hr') r hr
    simp only [CaseRun.spares, apart, Bool.or_eq_true, Bool.and_eq_true, Nat.blt_eq, beq_iff_eq]
      at hspare
    rcases hspare with hapart | ⟨⟨htwo, htwo' | hone⟩, hodd⟩
    · omega
    · rw [htwo] at hstep
      rw [htwo'] at hstep'
      omega
    · rw [htwo] at hstep
      omega

theorem ne_capitalDottedI_of_targetOf? {n m : Nat} (h : targetOf? n lowerRuns = some m) :
    m ≠ 0x130 := by
  obtain ⟨r, hr, hfirst, hlast, -, rfl⟩ := targetOf?_eq_some h
  have hapart := List.all_eq_true.mp lowerRuns_apart_capitalDottedI r hr
  simp only [apart, Bool.or_eq_true, Nat.blt_eq] at hapart
  omega

theorem applyRuns_of_targetOf?_eq_none {runs : List CaseRun} {c : Char}
    (h : targetOf? c.toNat runs = none) : applyRuns runs c = c := by
  unfold applyRuns
  rw [h]

theorem lowerings_of_targetOf?_eq_none {c : Char} (h : targetOf? c.toNat lowerRuns = none)
    (hi : c ≠ '\u0130') : lowerings c = [c] := by
  have hs : c ≠ 'Σ' := by
    rintro rfl
    revert h
    decide
  rw [lowerings, if_neg hs, lowerChar, if_neg hi, applyRuns_of_targetOf?_eq_none h]

theorem lowerings_applyRuns {c : Char} (hi : c ≠ '\u0130') :
    lowerings (applyRuns lowerRuns c) = [applyRuns lowerRuns c] := by
  cases ht : targetOf? c.toNat lowerRuns with
  | none =>
    rw [applyRuns_of_targetOf?_eq_none ht]
    exact lowerings_of_targetOf?_eq_none ht hi
  | some n =>
    have hruns : applyRuns lowerRuns c = Char.ofNat n := by
      unfold applyRuns
      rw [ht]
    rw [hruns]
    by_cases hv : n.isValidChar
    · have hcode : (Char.ofNat n).toNat = n := by
        rw [Char.ofNat, dif_pos hv]
        rfl
      refine lowerings_of_targetOf?_eq_none (by rw [hcode, targetOf?_of_targetOf? ht]) ?_
      intro hdotted
      rw [hdotted] at hcode
      exact ne_capitalDottedI_of_targetOf? ht hcode.symm
    · rw [Char.ofNat, dif_neg hv]
      decide

/-- What a character is lowered to is not lowered any further. -/
theorem lowerings_of_mem_lowerings {c d : Char} (h : d ∈ lowerings c) : lowerings d = [d] := by
  unfold lowerings lowerChar at h
  by_cases hs : c = 'Σ'
  · rw [if_pos hs, List.mem_cons, List.mem_singleton] at h
    rcases h with rfl | rfl <;> decide
  · rw [if_neg hs] at h
    by_cases hi : c = '\u0130'
    · rw [if_pos hi, List.mem_cons, List.mem_singleton] at h
      rcases h with rfl | rfl <;> decide
    · rw [if_neg hi, List.mem_singleton] at h
      rw [h]
      exact lowerings_applyRuns hi

theorem exists_of_mem_lowerAfter {d : Char} {before t : Text} (h : d ∈ lowerAfter before t) :
    ∃ c ∈ t, d ∈ lowerings c := by
  induction t generalizing before with
  | nil => exact absurd h List.not_mem_nil
  | cons c t ih =>
    obtain ⟨piece, -, hpiece, heq⟩ := lowerAfter_cons_eq before c t
    rw [heq, List.mem_append] at h
    rcases h with hd | hrest
    · exact ⟨c, List.mem_cons_self, hpiece d hd⟩
    · obtain ⟨c', hc', hd⟩ := ih hrest
      exact ⟨c', List.mem_cons_of_mem c hc', hd⟩

theorem lower_eq_self_iff {t : Text} : lower t = t ↔ ∀ c ∈ t, lowerings c = [c] :=
  lowerAfter_eq_self_iff

@[simp] theorem lower_lower (t : Text) : lower (lower t) = lower t := by
  rw [lower_eq_self_iff]
  intro d hd
  obtain ⟨c, -, hc⟩ := exists_of_mem_lowerAfter hd
  exact lowerings_of_mem_lowerings hc

/-- How long a small form is does not depend on what stands around. -/
theorem length_lowerAfter (before t : Text) :
    (lowerAfter before t).length = (t.flatMap lowerChar).length := by
  induction t generalizing before with
  | nil => rfl
  | cons c t ih =>
    rw [lowerAfter, List.length_append, ih, List.flatMap_cons, List.length_append]
    by_cases hs : c = 'Σ'
    · have hone : (lowerChar c).length = 1 := by
        rw [hs]
        decide
      rw [if_pos hs, hone, List.length_singleton]
    · rw [if_neg hs]

/-- No character is lowered to nothing, so what begins a text and has its small form is all of it. -/
theorem eq_of_isPrefix_of_lower_eq {s t : Text} (h : s <+: t) (hlower : lower s = lower t) :
    s = t := by
  obtain ⟨rest, rfl⟩ := h
  have hlength := congrArg List.length hlower
  have hrest := length_le_length_lowerAfter [] rest
  unfold lower at hlength
  rw [length_lowerAfter, length_lowerAfter, List.flatMap_append, List.length_append] at hlength
  rw [length_lowerAfter] at hrest
  have hnil : rest = [] := List.length_eq_zero_iff.mp (by omega)
  rw [hnil, List.append_nil]

/-! ## The case of ASCII letters -/

private theorem toLower_capital : ∀ k : Fin 26,
    let c := Char.ofNat (0x41 + k)
    isCased c.toLower = isCased c ∧ isCaseIgnorable c.toLower = isCaseIgnorable c ∧
      lowerChar c.toLower = lowerChar c ∧ c.toLower ≠ 'Σ' ∧ c ≠ 'Σ' := by
  decide +kernel

/-- A character and its small ASCII letter are the same to whatever lowering asks of them. -/
theorem toLower_alike (c : Char) : isCased c.toLower = isCased c ∧
    isCaseIgnorable c.toLower = isCaseIgnorable c ∧ lowerChar c.toLower = lowerChar c ∧
    (c.toLower = 'Σ' ↔ c = 'Σ') := by
  by_cases hc : c.val ≥ 'A'.val ∧ c.val ≤ 'Z'.val
  · have hfirst : 0x41 ≤ c.toNat := hc.1
    have hlast : c.toNat ≤ 0x5a := hc.2
    have hcode : Char.ofNat (0x41 + (c.toNat - 0x41)) = c := by
      rw [Nat.add_sub_cancel' hfirst, Char.ofNat_toNat]
    have halike := toLower_capital ⟨c.toNat - 0x41, by omega⟩
    dsimp only at halike
    rw [hcode] at halike
    obtain ⟨hcased, hignorable, hlower, hsmall, hcapital⟩ := halike
    exact ⟨hcased, hignorable, hlower, iff_of_false hsmall hcapital⟩
  · have hsame : c.toLower = c := dif_neg hc
    rw [hsame]
    exact ⟨rfl, rfl, rfl, Iff.rfl⟩

theorem meetsCased_map_toLower (t : Text) : meetsCased (t.map Char.toLower) = meetsCased t := by
  induction t with
  | nil => rfl
  | cons c t ih =>
    obtain ⟨hcased, hignorable, -, -⟩ := toLower_alike c
    simp only [List.map_cons, meetsCased, hcased, hignorable, ih]

theorem lowerAfter_map_toLower (before t : Text) :
    lowerAfter (before.map Char.toLower) (t.map Char.toLower) = lowerAfter before t := by
  induction t generalizing before with
  | nil => rfl
  | cons c t ih =>
    obtain ⟨-, -, hlower, hsigma⟩ := toLower_alike c
    have hrest := ih (c :: before)
    rw [List.map_cons] at hrest
    simp only [List.map_cons, lowerAfter, meetsCased_map_toLower, hlower, hsigma, hrest]

/-- Lowering does not see the case of ASCII letters. -/
theorem lower_map_toLower (t : Text) : lower (t.map Char.toLower) = lower t :=
  lowerAfter_map_toLower [] t

theorem lower_eq_of_map_toLower {s t : Text} (h : s.map Char.toLower = t.map Char.toLower) :
    lower s = lower t :=
  calc lower s
    _ = lower (s.map Char.toLower) := (lower_map_toLower s).symm
    _ = lower (t.map Char.toLower) := by rw [h]
    _ = lower t := lower_map_toLower t

end ItemQuery.Text
