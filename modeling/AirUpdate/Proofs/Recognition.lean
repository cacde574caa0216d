/-
  Air updates — nothing but a JSON text is read.

  Whatever a reader takes from the input is written as the grammar has it, and
  what it gives back is the rest.  With the other direction, a text has at most
  one value, and the reader gives it exactly if there is one
  (`ofText?_eq_some_iff`).
-/
import AirUpdate.Proofs.Parsing

namespace AirUpdate.Json

section
variable {cs ds rest : List Char}

theorem exists_blank (cs : List Char) : ∃ b, Blank b ∧ cs = b ++ skipBlanks cs :=
  ⟨cs.takeWhile isBlank, fun _ => List.mem_takeWhile_imp, List.takeWhile_append_dropWhile.symm⟩

/-! ## Numbers -/

theorem of_readDigits (h : readDigits cs = some (ds, rest)) : Digits ds ∧ cs = ds ++ rest := by
  unfold readDigits at h
  split at h
  · cases h
  · next d ds e =>
    cases h
    exact ⟨⟨by simp, fun c hc => List.mem_takeWhile_imp (e ▸ hc)⟩,
      by rw [← e, List.takeWhile_append_dropWhile]⟩

theorem of_readWhole (h : readWhole cs = some (ds, rest)) : Whole ds ∧ cs = ds ++ rest := by
  unfold readWhole at h
  split at h
  · cases h
    exact ⟨.zero, rfl⟩
  · next other =>
    obtain ⟨digits, rfl⟩ := of_readDigits h
    refine ⟨.digits digits fun zero => ?_, rfl⟩
    obtain ⟨d, ds, rfl, -⟩ := digits.head
    obtain rfl : d = '0' := by simpa using zero
    exact other _ rfl

theorem of_readFraction {f : Bool} (h : readFraction cs = some (f, rest)) :
    ∃ fs, Fraction f fs ∧ cs = fs ++ rest := by
  unfold readFraction at h
  split at h
  · obtain ⟨⟨ds, rest⟩, digits, e⟩ := Option.map_eq_some_iff.mp h
    cases e
    obtain ⟨hds, rfl⟩ := of_readDigits digits
    exact ⟨_, .point hds, rfl⟩
  · cases h
    exact ⟨[], .none, rfl⟩

theorem exists_sign (cs : List Char) : ∃ sign, Sign sign ∧ cs = sign ++ dropSign cs := by
  unfold dropSign
  split
  · exact ⟨_, .plus, rfl⟩
  · exact ⟨_, .minus, rfl⟩
  · exact ⟨_, .none, rfl⟩

theorem of_readExponent {e : Bool} (h : readExponent cs = some (e, rest)) :
    ∃ es, Exponent e es ∧ cs = es ++ rest := by
  have behind : ∀ {c cs}, c = 'e' ∨ c = 'E' →
      (readDigits (dropSign cs)).map (fun r => (true, r.2)) = some (e, rest) →
        ∃ es, Exponent e es ∧ c :: cs = es ++ rest := by
    intro c cs letter h
    obtain ⟨⟨ds, rest⟩, digits, eq⟩ := Option.map_eq_some_iff.mp h
    cases eq
    obtain ⟨sign, hsign, split⟩ := exists_sign cs
    obtain ⟨digits, e⟩ := of_readDigits digits
    exact ⟨_, .exponent letter hsign digits, by rw [split, e]; simp⟩
  unfold readExponent at h
  split at h
  · exact behind (.inl rfl) h
  · exact behind (.inr rfl) h
  · cases h
    exact ⟨[], .none, rfl⟩

theorem of_readUnsigned {n : Option Nat} (h : readUnsigned cs = some (n, rest)) :
    ∃ ds f fs e es, Whole ds ∧ Fraction f fs ∧ Exponent e es ∧ cs = ds ++ fs ++ es ++ rest ∧
      n = if f || e then none else some (ofDecimals ds) := by
  simp only [readUnsigned, Option.bind_eq_bind, Option.bind_eq_some_iff, Option.pure_def] at h
  obtain ⟨⟨ds, r₁⟩, whole, ⟨f, r₂⟩, fraction, ⟨e, r₃⟩, exponent, eq⟩ := h
  cases eq
  obtain ⟨hds, rfl⟩ := of_readWhole whole
  obtain ⟨fs, hfs, rfl⟩ := of_readFraction fraction
  obtain ⟨es, hes, rfl⟩ := of_readExponent exponent
  exact ⟨ds, f, fs, e, es, hds, hfs, hes, by simp, rfl⟩

theorem toNat_of_isDecimal {c : Char} (h : isDecimal c) : 48 ≤ c.toNat ∧ c.toNat ≤ 57 := by
  simp only [isDecimal, Bool.and_eq_true, decide_eq_true_eq] at h
  exact ⟨toNat_le h.1, toNat_le h.2⟩

theorem digitChar_of_isDecimal {c : Char} (h : isDecimal c) : Nat.digitChar (c.toNat - 48) = c := by
  have := toNat_of_isDecimal h
  apply Char.toNat_inj.mp
  rw [Nat.toNat_digitChar_of_lt_ten (by omega)]
  omega

theorem ofDecimals_concat (ds : List Char) (d : Char) :
    ofDecimals (ds ++ [d]) = 10 * ofDecimals ds + (d.toNat - 48) := by
  simp [ofDecimals]

/-- Digits are those of the number that they make, unless they start with zero. -/
theorem toDigits_ofDecimals (h : Digits ds) (zero : ds.head? ≠ some '0') :
    Nat.toDigits 10 (ofDecimals ds) = ds := by
  induction ds using List.reverseRecOn with
  | nil => exact absurd rfl h.some
  | append_singleton ds d ih =>
    have hd : isDecimal d := h.all d (by simp)
    have small := toNat_of_isDecimal hd
    rw [ofDecimals_concat]
    by_cases empty : ds = []
    · subst empty
      rw [show ofDecimals [] = 0 from rfl, Nat.mul_zero, Nat.zero_add,
        Nat.toDigits_of_lt_base (by omega), digitChar_of_isDecimal hd, List.nil_append]
    · rw [List.head?_append_of_ne_nil _ empty] at zero
      have digits := ih ⟨empty, fun c hc => h.all c (by simp [hc])⟩ zero
      have pos : 0 < ofDecimals ds := by
        refine Nat.pos_of_ne_zero fun null => zero ?_
        rw [← digits, null]
        rfl
      rw [← Nat.toDigits_append_toDigits (by omega) pos (by omega), digits,
        Nat.toDigits_of_lt_base (by omega), digitChar_of_isDecimal hd]

theorem Whole.toDigits_ofDecimals (h : Whole ds) : Nat.toDigits 10 (ofDecimals ds) = ds := by
  cases h with
  | zero => rfl
  | digits h zero => exact Json.toDigits_ofDecimals h zero

theorem of_readNumber {n : Option Nat} (h : readNumber cs = some (n, rest)) :
    ∃ t, Number n t ∧ cs = t ++ rest := by
  unfold readNumber at h
  split at h
  · obtain ⟨⟨n, rest⟩, unsigned, e⟩ := Option.map_eq_some_iff.mp h
    cases e
    obtain ⟨ds, f, fs, e, es, hds, hfs, hes, rfl, -⟩ := of_readUnsigned unsigned
    exact ⟨_, .negative hds hfs hes, rfl⟩
  · obtain ⟨ds, f, fs, e, es, hds, hfs, hes, rfl, rfl⟩ := of_readUnsigned h
    by_cases some : f ∨ e
    · refine ⟨_, ?_, rfl⟩
      simpa [some] using Number.decimal hds hfs hes some
    · simp only [not_or, Bool.not_eq_true] at some
      obtain ⟨rfl, rfl⟩ := some
      cases hfs
      cases hes
      simpa [hds.toDigits_ofDecimals] using Number.natural (ofDecimals ds)

/-! ## Strings -/

theorem of_escaped? {e c : Char} (h : escaped? e = some c) : (e, c) ∈ letters := by
  unfold escaped? at h
  split at h <;> cases h <;> simp [letters]

theorem of_unit? {a b c d : Char} {u : Nat} (h : unit? a b c d = some u) :
    ∃ i j k l, hexValue? a = some i ∧ hexValue? b = some j ∧ hexValue? c = some k ∧
      hexValue? d = some l ∧ u = 0x1000 * i + 0x100 * j + 0x10 * k + l := by
  simp only [unit?, Option.bind_eq_bind, Option.bind_eq_some_iff, Option.pure_def] at h
  obtain ⟨i, hi, j, hj, k, hk, l, hl, e⟩ := h
  cases e
  exact ⟨i, j, k, l, hi, hj, hk, hl, by omega⟩

theorem of_readPieces {ps : List Piece} (h : readPieces cs = some (ps, rest)) :
    ∃ t, Inside ps t ∧ cs = t ++ '\x22' :: rest := by
  fun_induction readPieces cs generalizing ps with
  | case1 => cases h
  | case2 behind =>
    cases h
    exact ⟨[], .nil, rfl⟩
  | case3 a b c d behind ih =>
    simp only [Option.bind_eq_bind, Option.bind_eq_some_iff, Option.pure_def] at h
    obtain ⟨u, unit, ⟨ps, behind⟩, pieces, e⟩ := h
    cases e
    obtain ⟨i, j, k, l, ha, hb, hc, hd, rfl⟩ := of_unit? unit
    obtain ⟨t, inside, rfl⟩ := ih pieces
    exact ⟨_, .unit ha hb hc hd inside, rfl⟩
  | case4 e behind _ ih =>
    simp only [Option.bind_eq_bind, Option.bind_eq_some_iff, Option.pure_def] at h
    obtain ⟨c, letter, ⟨ps, behind⟩, pieces, e⟩ := h
    cases e
    obtain ⟨t, inside, rfl⟩ := ih pieces
    exact ⟨_, .letter (of_escaped? letter) inside, rfl⟩
  | case5 => cases h
  | case6 c behind quote _ _ plain ih =>
    simp only [Option.bind_eq_bind, Option.bind_eq_some_iff, Option.pure_def] at h
    obtain ⟨⟨ps, behind⟩, pieces, e⟩ := h
    cases e
    obtain ⟨t, inside, rfl⟩ := ih pieces
    simp only [not_or, Nat.not_lt] at plain
    exact ⟨_, .plain plain.1 quote plain.2 inside, rfl⟩

theorem of_readString {s : Option String} (h : readString cs = some (s, rest)) :
    ∃ t, Quoted s ('\x22' :: t) ∧ cs = t ++ rest := by
  obtain ⟨⟨ps, behind⟩, pieces, e⟩ := Option.map_eq_some_iff.mp h
  cases e
  obtain ⟨t, inside, rfl⟩ := of_readPieces pieces
  refine ⟨t ++ ['\x22'], ?_, by simp⟩
  cases text : textOf? ps with
  | none =>
    refine .textless inside fun cs denotes => ?_
    simp [textOf?_of_denotes denotes] at text
  | some cs =>
    exact .text inside (by simpa using denotes_of_textOf? inside.unit_lt text)

/-! ## Values -/

theorem of_readWord {ws : List Char} (h : readWord ws cs = some rest) : cs = ws ++ rest := by
  fun_induction readWord ws cs with
  | case1 =>
    cases h
    rfl
  | case2 w ws cs ih => rw [ih h, List.cons_append]
  | case3 => cases h
  | case4 => cases h

/-- What the three readers of values take, each with calls of this depth. -/
structure Recognizes (d : Nat) : Prop where
  value {cs v rest} : readValue d cs = some (v, rest) →
    ∃ a t, Blank a ∧ Bare v t ∧ cs = a ++ (t ++ rest)
  items {cs vs rest} : readItems d cs = some (vs, rest) →
    ∃ t, Items vs t ∧ cs = t ++ ']' :: rest
  members {cs ms rest} : readMembers d cs = some (ms, rest) →
    ∃ t, Members ms t ∧ cs = t ++ '\x7d' :: rest

variable {d : Nat} {v : Json}

/-- **What a value is taken from**, if what stands in its brackets is taken so. -/
theorem Recognizes.value_succ (h : Recognizes d) (hv : readValue (d + 1) cs = some (v, rest)) :
    ∃ a t, Blank a ∧ Bare v t ∧ cs = a ++ (t ++ rest) := by
  obtain ⟨a, ha, behind⟩ := exists_blank cs
  suffices ∃ t, Bare v t ∧ skipBlanks cs = t ++ rest by
    obtain ⟨t, ht, split⟩ := this
    exact ⟨a, t, ha, ht, by rw [← split, ← behind]⟩
  rw [readValue] at hv
  generalize skipBlanks cs = u at hv
  split at hv
  · obtain ⟨_, word, e⟩ := Option.map_eq_some_iff.mp hv
    cases e
    exact ⟨_, .null, by rw [of_readWord word]; rfl⟩
  · obtain ⟨_, word, e⟩ := Option.map_eq_some_iff.mp hv
    cases e
    exact ⟨_, .tt, by rw [of_readWord word]; rfl⟩
  · obtain ⟨_, word, e⟩ := Option.map_eq_some_iff.mp hv
    cases e
    exact ⟨_, .ff, by rw [of_readWord word]; rfl⟩
  · obtain ⟨⟨s, _⟩, string, e⟩ := Option.map_eq_some_iff.mp hv
    cases e
    obtain ⟨t, quoted, rfl⟩ := of_readString string
    exact ⟨_, .string quoted, rfl⟩
  · next inner =>
    obtain ⟨b, hb, split⟩ := exists_blank inner
    split at hv
    · next close =>
      cases hv
      exact ⟨_, .noItems hb, by rw [split, close]; simp⟩
    · rw [readItems_skipBlanks] at hv
      obtain ⟨⟨vs, _⟩, items, e⟩ := Option.map_eq_some_iff.mp hv
      cases e
      obtain ⟨t, ht, rfl⟩ := h.items items
      exact ⟨_, .items ht, by simp⟩
  · next inner =>
    obtain ⟨b, hb, split⟩ := exists_blank inner
    split at hv
    · next close =>
      cases hv
      exact ⟨_, .noMembers hb, by rw [split, close]; simp⟩
    · rw [readMembers_skipBlanks] at hv
      obtain ⟨⟨ms, _⟩, members, e⟩ := Option.map_eq_some_iff.mp hv
      cases e
      obtain ⟨t, ht, rfl⟩ := h.members members
      exact ⟨_, .members ht, by simp⟩
  · obtain ⟨⟨n, _⟩, number, e⟩ := Option.map_eq_some_iff.mp hv
    cases e
    obtain ⟨t, ht, split⟩ := of_readNumber number
    exact ⟨t, .number ht, split⟩

/-- A value and the blanks around it, in front of a character that is none. -/
theorem Recognizes.written {c : Char} {behind : List Char} (h : Recognizes d)
    (hv : readValue d cs = some (v, rest)) (hc : skipBlanks rest = c :: behind) :
    ∃ t, Written v t ∧ cs = t ++ c :: behind := by
  obtain ⟨a, t, ha, ht, rfl⟩ := h.value hv
  obtain ⟨b, hb, split⟩ := exists_blank rest
  exact ⟨a ++ t ++ b, .mk ha ht hb, by rw [split, hc]; simp⟩

theorem Recognizes.items_succ {vs : List Json} (h : Recognizes d)
    (hvs : readItems (d + 1) cs = some (vs, rest)) : ∃ t, Items vs t ∧ cs = t ++ ']' :: rest := by
  simp only [readItems, Option.bind_eq_bind, Option.bind_eq_some_iff] at hvs
  obtain ⟨⟨v, behind⟩, value, hvs⟩ := hvs
  split at hvs
  · next comma =>
    obtain ⟨t, ht, rfl⟩ := h.written value comma
    obtain ⟨⟨vs, _⟩, items, e⟩ := Option.map_eq_some_iff.mp hvs
    cases e
    obtain ⟨u, hu, rfl⟩ := h.items items
    exact ⟨_, .more ht hu, by simp⟩
  · next close =>
    obtain ⟨t, ht, rfl⟩ := h.written value close
    cases hvs
    exact ⟨t, .last ht, rfl⟩
  · cases hvs

theorem Recognizes.members_succ {ms : List (Option String × Json)} (h : Recognizes d)
    (hms : readMembers (d + 1) cs = some (ms, rest)) :
    ∃ t, Members ms t ∧ cs = t ++ '\x7d' :: rest := by
  obtain ⟨a, ha, front⟩ := exists_blank cs
  rw [readMembers] at hms
  split at hms
  · next quote =>
    simp only [Option.bind_eq_bind, Option.bind_eq_some_iff] at hms
    obtain ⟨⟨n, behind⟩, name, hms⟩ := hms
    obtain ⟨s, hs, split⟩ := of_readString name
    obtain ⟨b, hb, behind⟩ := exists_blank behind
    split at hms
    · next colon =>
      have hname : Name n (a ++ ('\x22' :: s) ++ b) := .mk ha hs hb
      simp only [Option.bind_eq_some_iff] at hms
      obtain ⟨⟨v, _⟩, value, hms⟩ := hms
      split at hms
      · next comma =>
        obtain ⟨t, ht, rfl⟩ := h.written value comma
        obtain ⟨⟨ms, _⟩, members, e⟩ := Option.map_eq_some_iff.mp hms
        cases e
        obtain ⟨u, hu, rfl⟩ := h.members members
        exact ⟨_, .more hname ht hu, by rw [front, quote, split, behind, colon]; simp⟩
      · next close =>
        obtain ⟨t, ht, rfl⟩ := h.written value close
        cases hms
        exact ⟨_, .last hname ht, by rw [front, quote, split, behind, colon]; simp⟩
      · cases hms
    · cases hms
  · cases hms

theorem recognizes (d : Nat) : Recognizes d := by
  induction d with
  | zero => exact ⟨nofun, nofun, nofun⟩
  | succ d ih => exact ⟨ih.value_succ, ih.items_succ, ih.members_succ⟩

end

theorem written_of_ofText? {v : Json} {t : List Char} (h : ofText? t = some v) : Written v t := by
  simp only [ofText?, Option.bind_eq_bind, Option.bind_eq_some_iff] at h
  obtain ⟨⟨v, rest⟩, value, h⟩ := h
  split_ifs at h with blank
  cases h
  obtain ⟨a, t, ha, ht, rfl⟩ := (recognizes _).value value
  obtain ⟨b, hb, split⟩ := exists_blank rest
  rw [List.isEmpty_iff.mp blank, List.append_nil] at split
  simpa [split] using Written.mk ha ht hb

/-- **The reader gives a value exactly if the text is one of it.** -/
theorem ofText?_eq_some_iff {v : Json} {t : List Char} : ofText? t = some v ↔ Written v t :=
  ⟨written_of_ofText?, ofText?_of_written⟩

end AirUpdate.Json
