import Mathlib.Data.Rat.Floor
import RuneGrid.Arithmetic

/-!
# Products and quotients as integers

Multiplication and division work with one more than their operands, so the greatest word is no
operand of theirs (`Word.add?_one_eq_none_iff`).

* One more than a word is never the least word, and this is the only dividend whose quotient can be
  outside the words.  So every step of such a division has a result (`Word.dividesDown`), and
  `exists_shiftedQuotient` says which one.  `shiftedQuotient_of_max` and `shiftedQuotient_neg_one`
  are the operands that are left.
* A product is the one of the integers, where this is a word at every step (`HasProduct`), and
  otherwise an overflow: `shiftedProduct_eq_ok_iff`.  So what is known of the integers holds of the
  products, and a quotient undoes them (`shiftedQuotient_of_shiftedProduct`).

`shiftedQuotient_eq_floor` and `shiftedProduct_laws` put this together.
-/

namespace RuneGrid

theorem floor_div_of_nonneg (a : Int) {b : Int} (hb : 0 ≤ b) : ⌊(a / b : ℚ)⌋ = a.fdiv b := by
  obtain ⟨n, rfl⟩ := Int.eq_ofNat_of_zero_le hb
  rw [Int.fdiv_eq_ediv_of_nonneg a hb]
  exact Rat.floor_intCast_div_natCast a n

/-- The quotient that is rounded down is the floor of the fraction. -/
theorem floor_div (a b : Int) : ⌊(a / b : ℚ)⌋ = a.fdiv b := by
  rcases le_total 0 b with hb | hb
  · exact floor_div_of_nonneg a hb
  · have h := floor_div_of_nonneg (-a) (Int.neg_nonneg_of_nonpos hb)
    rw [Int.neg_fdiv_neg, Int.cast_neg, Int.cast_neg, neg_div_neg_eq] at h
    exact h

/-- It is the quotient with its fraction cut off, less 1 if that has moved it up. -/
theorem fdiv_eq_corrected (a : Int) {b : Int} (hb : b ≠ 0) :
    a.fdiv b = if a.tmod b ≠ 0 ∧ ¬(a < 0 ↔ b < 0) then a.tdiv b - 1 else a.tdiv b := by
  rw [Int.fdiv_eq_tdiv]
  by_cases hdvd : b ∣ a
  · rw [if_pos hdvd, if_neg (fun h => h.1 (Int.tmod_eq_zero_of_dvd hdvd)), Int.sub_zero]
  · have hmod : a.tmod b ≠ 0 := fun h => hdvd (Int.dvd_of_tmod_eq_zero h)
    rw [if_neg hdvd]
    rcases Int.lt_or_gt_of_ne hb with hneg | hpos
    · rw [Int.sign_eq_neg_one_of_neg hneg]
      split_ifs <;> omega
    · rw [Int.sign_eq_one_of_pos hpos]
      split_ifs <;> omega

namespace Word

variable {a b v : Word} {n : Int}

/-! ### The range of the words -/

theorem eq_zero_iff : v = 0 ↔ v.toInt = 0 :=
  Int64.toInt_inj.symm

theorem eq_neg_one_iff : v = -1 ↔ v.toInt = -1 :=
  Int64.toInt_inj.symm

theorem exists_ofInt? (hlo : Int64.minValue.toInt ≤ n) (hhi : n ≤ Int64.maxValue.toInt) :
    ∃ w, ofInt? n = some w ∧ w.toInt = n := by
  have h : ofInt? n = some (Int64.ofInt n) := if_pos ⟨hlo, hhi⟩
  exact ⟨_, h, ofInt?_eq_some_iff.1 h⟩

theorem add?_one_eq_some_iff : v.add? 1 = some a ↔ a.toInt = v.toInt + 1 :=
  ofInt?_eq_some_iff

theorem sub?_one_eq_some_iff : v.sub? 1 = some a ↔ a.toInt = v.toInt - 1 :=
  ofInt?_eq_some_iff

theorem exists_add?_one (h : v ≠ Int64.maxValue) :
    ∃ a, v.add? 1 = some a ∧ a.toInt = v.toInt + 1 := by
  have hlo := Int64.minValue_le_toInt v
  have hhi := Int64.toInt_le v
  have hne : v.toInt ≠ Int64.maxValue.toInt := mt Int64.toInt_inj.1 h
  exact exists_ofInt? (n := v.toInt + 1) (by omega) (by omega)

theorem exists_sub?_one (h : v ≠ Int64.minValue) :
    ∃ a, v.sub? 1 = some a ∧ a.toInt = v.toInt - 1 := by
  have hlo := Int64.minValue_le_toInt v
  have hhi := Int64.toInt_le v
  have hne : v.toInt ≠ Int64.minValue.toInt := mt Int64.toInt_inj.1 h
  exact exists_ofInt? (n := v.toInt - 1) (by omega) (by omega)

/-- Only the greatest word has no next one. -/
theorem add?_one_eq_none_iff : v.add? 1 = none ↔ v = Int64.maxValue := by
  constructor
  · intro hn
    by_contra h
    obtain ⟨a, ha, -⟩ := exists_add?_one h
    rw [hn] at ha
    cases ha
  · rintro rfl
    rfl

theorem ne_maxValue_of_add? (h : v.add? 1 = some a) : v ≠ Int64.maxValue := by
  intro hv
  rw [add?_one_eq_none_iff.2 hv] at h
  cases h

/-- What is no farther from 0 than a word is a word, and neither is the least one. -/
theorem exists_of_natAbs_le (ha : a ≠ Int64.minValue) (hn : n.natAbs ≤ a.toInt.natAbs) :
    ∃ v, ofInt? n = some v ∧ v ≠ Int64.minValue := by
  have hlo := Int64.le_toInt a
  have hhi := Int64.toInt_lt a
  have hmin := Int64.toInt_minValue
  have hmax := Int64.toInt_maxValue
  have hne : a.toInt ≠ Int64.minValue.toInt := mt Int64.toInt_inj.1 ha
  obtain ⟨v, hv, hval⟩ := exists_ofInt? (n := n) (by omega) (by omega)
  refine ⟨v, hv, fun h => ?_⟩
  rw [h] at hval
  omega

/-! ### Division -/

theorem quot?_eq_ofInt? (hb : b ≠ 0) : a.quot? b = ofInt? (a.toInt.tdiv b.toInt) :=
  if_neg (mt eq_zero_iff.2 hb)

theorem floorDiv?_eq_ofInt? {t : Word} (hb : b ≠ 0) (h : a.quot? b = some t) :
    a.floorDiv? b = ofInt? (a.toInt.fdiv b.toInt) := by
  have ht : t.toInt = a.toInt.tdiv b.toInt := by
    rwa [quot?_eq_ofInt? hb, ofInt?_eq_some_iff] at h
  rw [floorDiv?, h, Option.bind_eq_bind, Option.bind_some,
    fdiv_eq_corrected _ (mt eq_zero_iff.2 hb)]
  split_ifs with hc
  · rw [← ht]
    rfl
  · rw [ofInt?_eq_some_iff.2 ht]

/-- Every step of a division that rounds down has a result, and there is one less than its own. -/
structure DividesDown (a b : Word) : Prop where
  divisor_ne : b ≠ 0
  /-- No word is the quotient of these two, and so their remainder is not defined either. -/
  not_extreme : ¬ (a = Int64.minValue ∧ b = -1)
  /-- There is a cut quotient, and it can be corrected. -/
  quot : ∃ t c, a.quot? b = some t ∧ t.sub? 1 = some c
  floorDiv : ∃ q c, a.floorDiv? b = some q ∧ q.sub? 1 = some c ∧
    c.toInt = a.toInt.fdiv b.toInt - 1

/-- **Only the least word can spoil a division.** -/
theorem dividesDown (ha : a ≠ Int64.minValue) (hb : b ≠ 0) : DividesDown a b := by
  obtain ⟨t, ht, htmin⟩ := exists_of_natAbs_le ha (Int.natAbs_tdiv_le_natAbs a.toInt b.toInt)
  obtain ⟨q, hq, hqmin⟩ := exists_of_natAbs_le ha (Int.natAbs_fdiv_le_natAbs a.toInt b.toInt)
  obtain ⟨t', ht', -⟩ := exists_sub?_one htmin
  obtain ⟨c, hc, hcval⟩ := exists_sub?_one hqmin
  rw [← quot?_eq_ofInt? hb] at ht
  refine ⟨hb, fun h => ha h.1, ⟨t, t', ht, ht'⟩, ⟨q, c, ?_, hc, ?_⟩⟩
  · rw [floorDiv?_eq_ofInt? hb ht, hq]
  · rw [hcval, ofInt?_eq_some_iff.1 hq]

/-- One more than a word is not the least one. -/
theorem dividesDown_of_add? (ha : v.add? 1 = some a) (hb : b ≠ 0) : DividesDown a b := by
  have hlo := Int64.minValue_le_toInt v
  refine dividesDown ?_ hb
  rintro rfl
  rw [add?_one_eq_some_iff] at ha
  omega

end Word

open Word

variable {v d f m a b c : Word} {x : Option Word} {fault : Fault}

/-! ### Missing results -/

theorem orOverflow_eq_ok_iff : orOverflow x = .ok v ↔ x = some v := by
  cases x <;> simp [orOverflow]

theorem orOverflow_eq_error (h : orOverflow x = .error fault) : fault = .overflow := by
  cases x <;> cases h
  rfl

theorem orOverflow_bind {g : Word → Option Word} :
    (orOverflow x >>= fun w => orOverflow (g w)) = orOverflow (x.bind g) := by
  cases x <;> rfl

/-! ### Quotients -/

/-- The greatest word is neither divided nor a divisor, not even together with -1. -/
theorem shiftedQuotient_of_max (h : v = Int64.maxValue ∨ d = Int64.maxValue) :
    shiftedQuotient v d = .error .overflow := by
  rw [shiftedQuotient]
  by_cases hv : v = Int64.maxValue
  · rw [add?_one_eq_none_iff.2 hv]
    rfl
  · obtain ⟨a, ha, -⟩ := exists_add?_one hv
    rw [ha, add?_one_eq_none_iff.2 (h.resolve_left hv)]
    rfl

theorem shiftedQuotient_neg_one (hv : v ≠ Int64.maxValue) :
    shiftedQuotient v (-1) = .error .zeroDivisor := by
  obtain ⟨a, ha, -⟩ := exists_add?_one hv
  rw [shiftedQuotient, ha]
  rfl

theorem exists_shiftedQuotient (hv : v ≠ Int64.maxValue) (hd : d ≠ Int64.maxValue)
    (hne : d ≠ -1) :
    ∃ q, shiftedQuotient v d = .ok q ∧ q.toInt = (v.toInt + 1).fdiv (d.toInt + 1) - 1 := by
  obtain ⟨a, ha, haval⟩ := exists_add?_one hv
  obtain ⟨b, hb, hbval⟩ := exists_add?_one hd
  have hb0 : b ≠ 0 := by
    rw [Ne, eq_neg_one_iff] at hne
    rw [Ne, eq_zero_iff]
    omega
  obtain ⟨q, c, hq, hc, hcval⟩ := (dividesDown_of_add? ha hb0).floorDiv
  refine ⟨c, ?_, ?_⟩
  · rw [shiftedQuotient, ha, hb]
    show (if b = 0 then _ else _) = _
    rw [if_neg hb0, hq]
    exact orOverflow_eq_ok_iff.2 hc
  · rw [hcval, haval, hbval]

theorem shiftedQuotient_eq_error (h : shiftedQuotient v d = .error fault) :
    fault = .overflow ∨ fault = .zeroDivisor := by
  by_cases hmax : v = Int64.maxValue ∨ d = Int64.maxValue
  · rw [shiftedQuotient_of_max hmax] at h
    cases h
    exact Or.inl rfl
  · rw [not_or] at hmax
    by_cases hd : d = -1
    · rw [hd, shiftedQuotient_neg_one hmax.1] at h
      cases h
      exact Or.inr rfl
    · obtain ⟨q, hq, -⟩ := exists_shiftedQuotient hmax.1 hmax.2 hd
      rw [hq] at h
      cases h

/-- **Quotients are exact.**  Every word but the greatest one can be divided by every word but the
greatest one and -1, and then the quotient is that of the integers, rounded down.  No step of the
division can spoil it. -/
theorem shiftedQuotient_eq_floor (v d : Word) :
    (v = Int64.maxValue ∨ d = Int64.maxValue → shiftedQuotient v d = .error .overflow) ∧
    (v ≠ Int64.maxValue → d = -1 → shiftedQuotient v d = .error .zeroDivisor) ∧
    (v ≠ Int64.maxValue → d ≠ Int64.maxValue → d ≠ -1 → ∃ q, shiftedQuotient v d = .ok q ∧
      q.toInt = ⌊((v.toInt + 1 : Int) / (d.toInt + 1 : Int) : ℚ)⌋ - 1) ∧
    ∀ a b, v.add? 1 = some a → d.add? 1 = some b → b ≠ 0 → DividesDown a b := by
  refine ⟨shiftedQuotient_of_max, ?_, ?_, ?_⟩
  · rintro hv rfl
    exact shiftedQuotient_neg_one hv
  · intro hv hd hne
    rw [floor_div]
    exact exists_shiftedQuotient hv hd hne
  · intro a b ha _ hb
    exact dividesDown_of_add? ha hb

/-- The least word can be divided by -2, which makes it the last but one.  A negative fraction goes
down.  The greatest word overflows before its divisor is looked at. -/
theorem shiftedQuotient_of_ends :
    (∃ q, shiftedQuotient Int64.minValue (-2) = .ok q ∧ q.toInt = Int64.maxValue.toInt - 1) ∧
    (∃ q, shiftedQuotient 4 (-3) = .ok q ∧ q.toInt = -4) ∧
    shiftedQuotient Int64.maxValue (-1) = .error .overflow ∧
    shiftedQuotient Int64.minValue (-1) = .error .zeroDivisor ∧
    DividesDown (Int64.minValue + 1) (-1) := by
  obtain ⟨-, -, hends, hsteps⟩ := shiftedQuotient_eq_floor Int64.minValue (-2)
  obtain ⟨-, -, hdown, -⟩ := shiftedQuotient_eq_floor 4 (-3)
  obtain ⟨hmax, -, -, -⟩ := shiftedQuotient_eq_floor Int64.maxValue (-1)
  obtain ⟨-, hzero, -, -⟩ := shiftedQuotient_eq_floor Int64.minValue (-1)
  refine ⟨?_, ?_, hmax (Or.inl rfl), hzero (by decide) rfl, hsteps _ _ rfl rfl (by decide)⟩
  · obtain ⟨q, hq, hval⟩ := hends (by decide) (by decide) (by decide)
    rw [floor_div] at hval
    exact ⟨q, hq, hval⟩
  · obtain ⟨q, hq, hval⟩ := hdown (by decide) (by decide) (by decide)
    rw [floor_div] at hval
    exact ⟨q, hq, hval⟩

/-! ### Products -/

/-- The factors have a next word, the product of these is a word, and that has one before it. -/
structure HasProduct (v f : Word) : Prop where
  left : v ≠ Int64.maxValue
  right : f ≠ Int64.maxValue
  lower : Int64.minValue.toInt < (v.toInt + 1) * (f.toInt + 1)
  upper : (v.toInt + 1) * (f.toInt + 1) ≤ Int64.maxValue.toInt

theorem HasProduct.symm (h : HasProduct v f) : HasProduct f v := by
  obtain ⟨hv, hf, hlo, hhi⟩ := h
  rw [Int.mul_comm] at hlo hhi
  exact ⟨hf, hv, hlo, hhi⟩

/-- The four steps of a product. -/
theorem shiftedProduct_eq (v f : Word) : shiftedProduct v f =
    orOverflow ((v.add? 1).bind fun a => (f.add? 1).bind fun b =>
      (a.mul? b).bind fun p => p.sub? 1) := by
  simp only [shiftedProduct, orOverflow_bind]

theorem shiftedProduct_eq_error (h : shiftedProduct v f = .error fault) : fault = .overflow := by
  rw [shiftedProduct_eq] at h
  exact orOverflow_eq_error h

theorem shiftedProduct_eq_ok_iff : shiftedProduct v f = .ok m ↔
    HasProduct v f ∧ m.toInt = (v.toInt + 1) * (f.toInt + 1) - 1 := by
  rw [shiftedProduct_eq, orOverflow_eq_ok_iff]
  simp only [Option.bind_eq_some_iff]
  constructor
  · rintro ⟨a, ha, b, hb, p, hp, hm⟩
    have hv := ne_maxValue_of_add? ha
    have hf := ne_maxValue_of_add? hb
    rw [add?_one_eq_some_iff] at ha hb
    rw [mul?, ofInt?_eq_some_iff, ha, hb] at hp
    rw [sub?_one_eq_some_iff, hp] at hm
    have hlo := Int64.minValue_le_toInt m
    have hhi := Int64.toInt_le p
    exact ⟨⟨hv, hf, by omega, by omega⟩, hm⟩
  · rintro ⟨⟨hv, hf, hlo, hhi⟩, hm⟩
    obtain ⟨a, ha, haval⟩ := exists_add?_one hv
    obtain ⟨b, hb, hbval⟩ := exists_add?_one hf
    rw [← haval, ← hbval] at hlo hhi hm
    obtain ⟨p, hp, hpval⟩ := exists_ofInt? hlo.le hhi
    refine ⟨a, ha, b, hb, p, hp, ?_⟩
    rw [sub?_one_eq_some_iff, hm, hpval]

theorem HasProduct.exists_shiftedProduct (h : HasProduct v f) :
    ∃ m, shiftedProduct v f = .ok m ∧ m.toInt = (v.toInt + 1) * (f.toInt + 1) - 1 := by
  obtain ⟨m, -, hm⟩ := exists_ofInt? (Int.le_sub_one_of_lt h.lower)
    ((Int.sub_le_self _ Int.one_nonneg).trans h.upper)
  exact ⟨m, shiftedProduct_eq_ok_iff.2 ⟨h, hm⟩, hm⟩

theorem shiftedProduct_of_not_hasProduct (h : ¬ HasProduct v f) :
    shiftedProduct v f = .error .overflow := by
  cases hp : shiftedProduct v f with
  | error fault => rw [shiftedProduct_eq_error hp]
  | ok m => exact absurd (shiftedProduct_eq_ok_iff.1 hp).1 h

theorem shiftedProduct_comm (v f : Word) : shiftedProduct v f = shiftedProduct f v := by
  by_cases h : HasProduct v f
  · obtain ⟨m, hm, hval⟩ := h.exists_shiftedProduct
    rw [Int.mul_comm] at hval
    rw [hm, shiftedProduct_eq_ok_iff.2 ⟨h.symm, hval⟩]
  · rw [shiftedProduct_of_not_hasProduct h, shiftedProduct_of_not_hasProduct (mt HasProduct.symm h)]

theorem shiftedProduct_assoc {ab bc l r : Word} (hab : shiftedProduct a b = .ok ab)
    (hl : shiftedProduct ab c = .ok l) (hbc : shiftedProduct b c = .ok bc)
    (hr : shiftedProduct a bc = .ok r) : l = r := by
  have habval := (shiftedProduct_eq_ok_iff.1 hab).2
  have hlval := (shiftedProduct_eq_ok_iff.1 hl).2
  have hbcval := (shiftedProduct_eq_ok_iff.1 hbc).2
  have hrval := (shiftedProduct_eq_ok_iff.1 hr).2
  rw [habval, Int.sub_add_cancel, Int.mul_assoc] at hlval
  rw [hbcval, Int.sub_add_cancel] at hrval
  rw [← Int64.toInt_inj, hlval, hrval]

/-- 0 stands for one. -/
theorem shiftedProduct_zero (hv : v ≠ Int64.maxValue) : shiftedProduct v 0 = .ok v := by
  have hlo := Int64.minValue_le_toInt v
  have hhi := Int64.toInt_le v
  have hne : v.toInt ≠ Int64.maxValue.toInt := mt Int64.toInt_inj.1 hv
  have hone : (v.toInt + 1) * ((0 : Word).toInt + 1) = v.toInt + 1 := Int.mul_one _
  rw [shiftedProduct_eq_ok_iff, hone]
  exact ⟨⟨hv, by decide, by omega, by omega⟩, by omega⟩

/-- **Dividing undoes multiplying**, by every factor that can be divided by. -/
theorem shiftedQuotient_of_shiftedProduct (hf : f ≠ -1) (h : shiftedProduct v f = .ok m) :
    shiftedQuotient m f = .ok v := by
  obtain ⟨hp, hm⟩ := shiftedProduct_eq_ok_iff.1 h
  have hhi := hp.upper
  have hne : f.toInt + 1 ≠ 0 := by
    rw [Ne, eq_neg_one_iff] at hf
    omega
  have hmax : m ≠ Int64.maxValue := by
    rintro rfl
    omega
  obtain ⟨q, hq, hval⟩ := exists_shiftedQuotient hmax hp.right hf
  rw [hm, Int.sub_add_cancel, Int.mul_fdiv_cancel _ hne, Int.add_sub_cancel] at hval
  rw [hq, Int64.toInt_inj.1 hval]

/-- **Products are exact** where they are words, and all others are overflows.  They commute, they
associate, 0 is neutral, and a quotient undoes them. -/
theorem shiftedProduct_laws :
    (∀ v f, (HasProduct v f ↔ ∃ m, shiftedProduct v f = .ok m ∧
        m.toInt = (v.toInt + 1) * (f.toInt + 1) - 1) ∧
      (¬ HasProduct v f → shiftedProduct v f = .error .overflow)) ∧
    (∀ v f, shiftedProduct v f = shiftedProduct f v) ∧
    (∀ a b c ab bc l r, shiftedProduct a b = .ok ab → shiftedProduct ab c = .ok l →
      shiftedProduct b c = .ok bc → shiftedProduct a bc = .ok r → l = r) ∧
    (∀ v, v ≠ Int64.maxValue → shiftedProduct v 0 = .ok v ∧ shiftedProduct 0 v = .ok v) ∧
    ∀ v f m, f ≠ -1 → shiftedProduct v f = .ok m → shiftedQuotient m f = .ok v := by
  refine ⟨fun v f => ⟨⟨HasProduct.exists_shiftedProduct, ?_⟩, shiftedProduct_of_not_hasProduct⟩,
    shiftedProduct_comm, fun _ _ _ _ _ _ _ => shiftedProduct_assoc, fun v hv => ⟨?_, ?_⟩,
    fun _ _ _ => shiftedQuotient_of_shiftedProduct⟩
  · rintro ⟨m, hm, -⟩
    exact (shiftedProduct_eq_ok_iff.1 hm).1
  · exact shiftedProduct_zero hv
  · rw [shiftedProduct_comm]
    exact shiftedProduct_zero hv

/-- The last word but one and -2 have the least word as their product, which divided by -2 gives
the factor back.  Where the product of the next words is the least word, there is none before it. -/
theorem shiftedProduct_of_ends :
    shiftedProduct (Int64.maxValue - 1) (-2) = .ok Int64.minValue ∧
    shiftedProduct (-2) (Int64.maxValue - 1) = .ok Int64.minValue ∧
    shiftedQuotient Int64.minValue (-2) = .ok (Int64.maxValue - 1) ∧
    shiftedProduct 4611686018427387903 (-3) = .error .overflow ∧
    (∃ l, shiftedProduct (-3) 3 = .ok l ∧ shiftedProduct 1 (-5) = .ok l) ∧
    shiftedProduct 0 Int64.minValue = .ok Int64.minValue := by
  obtain ⟨hexact, hcomm, hassoc, hzero, hundo⟩ := shiftedProduct_laws
  have hprod : shiftedProduct (Int64.maxValue - 1) (-2) = .ok Int64.minValue := by
    obtain ⟨m, hm, hval⟩ :=
      (hexact (Int64.maxValue - 1) (-2)).1.1 ⟨by decide, by decide, by decide, by decide⟩
    obtain rfl : m = Int64.minValue := Int64.toInt_inj.1 hval
    exact hm
  refine ⟨hprod, (hcomm _ _).trans hprod, hundo _ _ _ (by decide) hprod, (hexact _ _).2 ?_, ?_,
    (hzero _ (by decide)).2⟩
  · intro h
    exact absurd h.lower (by decide)
  · obtain ⟨l, hl, -⟩ := (hexact (-3) 3).1.1 ⟨by decide, by decide, by decide, by decide⟩
    obtain ⟨r, hr, -⟩ := (hexact 1 (-5)).1.1 ⟨by decide, by decide, by decide, by decide⟩
    obtain rfl := hassoc 1 (-2) 3 (-3) (-5) l r rfl hl rfl hr
    exact ⟨l, hl, hr⟩

end RuneGrid
